import ControlTower.Connector.Setup

/-! Connector records against the constraints of their creation. Creation enforces
them; a change keeps them exactly when what it sends satisfies them already. -/

set_option autoImplicit false

namespace ControlTower.Connectors

open Foundation
open Foundation.Procedure

/-- The constraints of creation on a stored connector. -/
structure ValidConnector (connector : AgentConnector) : Prop where
  name : ∃ name, connector.name = some name ∧ ConnectorName name
  connectorType : connector.connectorType ≠ none
  providerLabel : connector.providerLabel ≠ none
  endpointUrl : ∀ url, connector.endpointUrl = some url → ConnectorUrl url
  callbackUrl : ∀ url, connector.callbackUrl = some url → ConnectorUrl url
  authType : connector.authType ≠ none
  allowedProjectIds : connector.allowedProjectIds ≠ none
  allowedRepositories : connector.allowedRepositories ≠ none
  allowedActions : connector.allowedActions ≠ none
  rateLimitPerMinute : ∃ limit, connector.rateLimitPerMinute = some limit ∧ 1 ≤ limit ∧ limit ≤ 1000

/-- The request model accepts more than this: every field may be null, and names and
addresses are not looked at. -/
structure FitsCreation (payload : ConnectorUpdate) : Prop where
  name : ∀ value, payload.name = some value → ∃ name, value = some name ∧ ConnectorName name
  connectorType : payload.connectorType ≠ some none
  providerLabel : payload.providerLabel ≠ some none
  endpointUrl : ∀ url, payload.endpointUrl = some (some url) → ConnectorUrl url
  callbackUrl : ∀ url, payload.callbackUrl = some (some url) → ConnectorUrl url
  authType : payload.authType ≠ some none
  allowedProjectIds : payload.allowedProjectIds ≠ some none
  allowedRepositories : payload.allowedRepositories ≠ some none
  allowedActions : payload.allowedActions ≠ some none
  rateLimitPerMinute : payload.rateLimitPerMinute ≠ some none

section Changes

variable {α : Type}

/-- A field that must be present, after an assignment. -/
theorem assigned_present {sent : Option (Option α)} {current : Option α} (present : current ≠ none) :
    sent.getD current ≠ none ↔ sent ≠ some none := by
  rcases sent with _ | _ | value
  · simpa using present
  · simp
  · simp

/-- A field that can be absent, after an assignment. -/
theorem assigned_optional {sent : Option (Option α)} {current : Option α} {fits : α → Prop}
    (held : ∀ value, current = some value → fits value) :
    (∀ value, sent.getD current = some value → fits value) ↔ ∀ value, sent = some (some value) → fits value := by
  rcases sent with _ | _ | value
  · simpa using held
  · simp
  · simp

/-- A field that must be present and fit, after an assignment. -/
theorem assigned_fitting {sent : Option (Option α)} {current : Option α} {fits : α → Prop}
    (held : ∃ value, current = some value ∧ fits value) :
    (∃ value, sent.getD current = some value ∧ fits value) ↔
      ∀ value, sent = some value → ∃ kept, value = some kept ∧ fits kept := by
  rcases sent with _ | _ | value
  · simpa using held
  · simp
  · simp

/-- A rate limit that is sent is within its bounds unless it is null. -/
theorem assigned_limit {sent : Option (Option RateLimit)} {current : Option Int}
    (held : ∃ limit, current = some limit ∧ 1 ≤ limit ∧ limit ≤ 1000) :
    (∃ limit, (sent.map fun limit => limit.map (·.val)).getD current = some limit ∧ 1 ≤ limit ∧ limit ≤ 1000) ↔
      sent ≠ some none := by
  rcases sent with _ | _ | limit
  · simpa using held
  · simp
  · simpa using limit.property

/-- On a valid connector a change keeps the constraints exactly when it fits them itself. -/
theorem assignFields_valid_iff {connector : AgentConnector} (valid : ValidConnector connector) (payload : ConnectorUpdate) :
    ValidConnector (assignFields payload connector) ↔ FitsCreation payload := by
  constructor
  · intro kept
    exact
      { name := (assigned_fitting valid.name).mp kept.name
        connectorType := (assigned_present valid.connectorType).mp kept.connectorType
        providerLabel := (assigned_present valid.providerLabel).mp kept.providerLabel
        endpointUrl := (assigned_optional valid.endpointUrl).mp kept.endpointUrl
        callbackUrl := (assigned_optional valid.callbackUrl).mp kept.callbackUrl
        authType := (assigned_present valid.authType).mp kept.authType
        allowedProjectIds := (assigned_present valid.allowedProjectIds).mp kept.allowedProjectIds
        allowedRepositories := (assigned_present valid.allowedRepositories).mp kept.allowedRepositories
        allowedActions := (assigned_present valid.allowedActions).mp kept.allowedActions
        rateLimitPerMinute := (assigned_limit valid.rateLimitPerMinute).mp kept.rateLimitPerMinute }
  · intro fits
    exact
      { name := (assigned_fitting valid.name).mpr fits.name
        connectorType := (assigned_present valid.connectorType).mpr fits.connectorType
        providerLabel := (assigned_present valid.providerLabel).mpr fits.providerLabel
        endpointUrl := (assigned_optional valid.endpointUrl).mpr fits.endpointUrl
        callbackUrl := (assigned_optional valid.callbackUrl).mpr fits.callbackUrl
        authType := (assigned_present valid.authType).mpr fits.authType
        allowedProjectIds := (assigned_present valid.allowedProjectIds).mpr fits.allowedProjectIds
        allowedRepositories := (assigned_present valid.allowedRepositories).mpr fits.allowedRepositories
        allowedActions := (assigned_present valid.allowedActions).mpr fits.allowedActions
        rateLimitPerMinute := (assigned_limit valid.rateLimitPerMinute).mpr fits.rateLimitPerMinute }

end Changes

/-- The constraints only look at attributes. -/
theorem ValidConnector.of_same {before after : AgentConnector} (valid : ValidConnector before)
    (same : SameAttributes before after) : ValidConnector after where
  name := same.name ▸ valid.name
  connectorType := same.connectorType ▸ valid.connectorType
  providerLabel := same.providerLabel ▸ valid.providerLabel
  endpointUrl := same.endpointUrl ▸ valid.endpointUrl
  callbackUrl := same.callbackUrl ▸ valid.callbackUrl
  authType := same.authType ▸ valid.authType
  allowedProjectIds := same.allowedProjectIds ▸ valid.allowedProjectIds
  allowedRepositories := same.allowedRepositories ▸ valid.allowedRepositories
  allowedActions := same.allowedActions ▸ valid.allowedActions
  rateLimitPerMinute := same.rateLimitPerMinute ▸ valid.rateLimitPerMinute

def AllValid (store : ConnectorStore) : Prop :=
  ∀ connectorId connector, store.connectors.get? connectorId = some connector → ValidConnector connector

section Steps

variable (runtime : ConnectorRuntime)

/-- One connector is valid later when it was valid before. -/
def KeepsValid (before after : AgentConnector) : Prop := ValidConnector before → ValidConnector after

theorem keepsValid_refl (connector : AgentConnector) : KeepsValid connector connector := id

theorem keepsValid_trans (first second third : AgentConnector) (left : KeepsValid first second)
    (right : KeepsValid second third) : KeepsValid first third :=
  right ∘ left

theorem AllValid.every {before after : ConnectorStore} (valid : AllValid before)
    (every : EveryConnector KeepsValid before after) : AllValid after := by
  intro connectorId later stored
  obtain ⟨earlier, found, keeps⟩ := every.each connectorId later stored
  exact keeps (valid connectorId earlier found)

theorem AllValid.onConnector {store : ConnectorStore} (valid : AllValid store) {α : Type} (connectorId : String)
    {body : CaseProcedure α} (keeps : Holds KeepsValid body) :
    AllValid ((Connectors.onConnector connectorId body).run store).2 :=
  valid.every (every_onConnector keepsValid_refl connectorId keeps store)

/-- A change of attributes that no constraint looks at. -/
theorem keepsValid_change {change : AgentConnector → AgentConnector}
    (same : ∀ connector, SameAttributes connector (change connector)) : Holds KeepsValid (changeConnector change) :=
  holds_change fun connector valid => valid.of_same (same connector)

theorem keepsValid_readClock : Holds KeepsValid (readClock runtime.toRuntime : CaseProcedure Instant) :=
  holds_readClock keepsValid_refl _

theorem keepsValid_assign {payload : ConnectorUpdate} (fits : FitsCreation payload) :
    Holds KeepsValid (changeConnector (assignFields payload)) :=
  holds_change fun _ valid => (assignFields_valid_iff valid payload).mpr fits

theorem keepsValid_disable : Holds KeepsValid (disableConnector runtime) := by
  apply holds_bind keepsValid_trans (keepsValid_readClock runtime)
  intro updatedAt
  exact keepsValid_change fun connector => by constructor <;> rfl

theorem keepsValid_enable : Holds KeepsValid (enableConnector runtime) := by
  apply holds_bind keepsValid_trans (keepsValid_readClock runtime)
  intro updatedAt
  exact keepsValid_change fun connector => by constructor <;> rfl

theorem keepsValid_issue (secretId : String) : Holds KeepsValid (issueConnectorSecret runtime secretId) := by
  apply holds_bind keepsValid_trans
  · intro state
    exact ⟨keepsValid_refl state.connector, Nat.le_succ _⟩
  · intro token
    apply holds_bind keepsValid_trans (keepsValid_readClock runtime)
    intro rotatedAt
    apply holds_bind keepsValid_trans (keepsValid_readClock runtime)
    intro updatedAt
    apply holds_bind keepsValid_trans
    · exact keepsValid_change fun connector => by constructor <;> rfl
    · intro _
      exact holds_pure keepsValid_refl _

theorem keepsValid_revoke : Holds KeepsValid (revokeConnectorSecret runtime) := by
  apply holds_bind keepsValid_trans (keepsValid_readClock runtime)
  intro revokedAt
  apply holds_bind keepsValid_trans (keepsValid_readClock runtime)
  intro updatedAt
  exact keepsValid_change fun connector => by constructor <;> rfl

theorem keepsValid_stamp : Holds KeepsValid (do
    let updatedAt ← readClock runtime.toRuntime
    changeConnector fun connector => { connector with updatedAt }) := by
  apply holds_bind keepsValid_trans (keepsValid_readClock runtime)
  intro updatedAt
  exact keepsValid_change fun connector => by constructor <;> rfl

theorem keepsValid_mapper (mapper : SchemaMapper) : Holds KeepsValid (updateConnectorMapper runtime mapper) := by
  apply holds_bind keepsValid_trans
  · exact keepsValid_change fun connector => by constructor <;> rfl
  · intro _
    exact keepsValid_stamp runtime

theorem keepsValid_setup {α : Type} {body : CaseProcedure α} {written : List String} (holds : Holds (SameSetup written) body) : Holds KeepsValid body :=
  holds.mono fun _ _ same valid => valid.of_same same.toSameAttributes

theorem keepsValid_health (healthy : Bool) (reason : String) :
    Holds KeepsValid (markConnectorHealthCheck runtime healthy reason) := by
  apply holds_bind keepsValid_trans (keepsValid_readClock runtime)
  intro lastHealthCheckAt
  apply holds_bind keepsValid_trans (keepsValid_readClock runtime)
  intro updatedAt
  exact keepsValid_change fun connector => by constructor <;> rfl

/-- Past a validator, when a refusal is fine. -/
theorem ends_validated {α β : Type} {field : String} {outcome : Except String α} {next : α → ConnectorProcedure β}
    {store : ConnectorStore} {post : Except Raised β → ConnectorStore → Prop} (refused : ∀ error, post (.error error) store)
    (passes : ∀ value, (next value).Ends store post) : (validated field outcome >>= next).Ends store post := by
  rw [ends_bind]
  cases outcome with
  | ok value => exact passes value
  | error message => exact refused _

/-- Creation stores a valid connector, whatever the request model accepted. -/
theorem create_keeps_valid (payload : ConnectorCreate) (user : AuthUser) {store : ConnectorStore}
    (valid : AllValid store) : (createConnector runtime payload user).Ends store fun _ after => AllValid after := by
  unfold createConnector
  apply ends_validated fun _ => valid
  intro name
  apply ends_validated fun _ => valid
  intro endpointUrl
  apply ends_validated fun _ => valid
  intro callbackUrl
  unfold validateScopes
  rw [ends_bind]
  apply ends_read
  rw [ends_demand]
  constructor
  · intro known
    rw [continue_ok, ends_bind, ends_readClock, continue_ok, ends_bind, ends_readClock, continue_ok, ends_update]
    intro connectorId connector stored
    rw [Table.get?_set] at stored
    split at stored
    · cases stored
      exact
        { name := ⟨name.val, rfl, name.property⟩
          connectorType := Option.some_ne_none _
          providerLabel := Option.some_ne_none _
          endpointUrl := endpointUrl.property
          callbackUrl := callbackUrl.property
          authType := Option.some_ne_none _
          allowedProjectIds := Option.some_ne_none _
          allowedRepositories := Option.some_ne_none _
          allowedActions := Option.some_ne_none _
          rateLimitPerMinute := ⟨payload.rateLimitPerMinute.val, rfl, payload.rateLimitPerMinute.property⟩ }
    · exact valid connectorId connector stored
  · intro _
    exact valid

/-- What a change may send so that it fits; other requests are free. -/
def changesFit : ConnectorStore → ConnectorRequest → Prop
  | _, .update _ payload => FitsCreation payload
  | _, _ => True

theorem request_keeps_valid (request : ConnectorRequest) {store : ConnectorStore} (valid : AllValid store)
    (fits : changesFit store request) : (request.run runtime).Ends store fun _ after => AllValid after := by
  have single : ∀ (connectorId : String) {α : Type} {body : CaseProcedure α}, Holds KeepsValid body →
      (onConnector connectorId body).Ends store fun _ after => AllValid after :=
    fun connectorId _ _ => valid.onConnector connectorId
  cases request with
  | create payload user => exact Ends.dropped () (create_keeps_valid runtime payload user valid)
  | update connectorId payload =>
    change (updateConnector runtime connectorId payload).Ends store fun _ after => AllValid after
    unfold updateConnector validateScopes
    rw [ends_bind]
    apply ends_read
    rw [ends_demand]
    constructor
    · intro known
      apply single connectorId
      apply holds_bind keepsValid_trans (keepsValid_assign fits)
      intro _
      exact keepsValid_stamp runtime
    · intro _
      exact valid
  | disable connectorId => exact single connectorId (keepsValid_disable runtime)
  | enable connectorId => exact single connectorId (keepsValid_enable runtime)
  | issueSecret connectorId secretId => exact Ends.dropped () (single connectorId (keepsValid_issue runtime secretId))
  | rotateSecret connectorId secretId => exact Ends.dropped () (single connectorId (keepsValid_issue runtime secretId))
  | revokeSecret connectorId => exact single connectorId (keepsValid_revoke runtime)
  | setMapper connectorId mapper => exact single connectorId (keepsValid_mapper runtime mapper)
  | healthSuccess connectorId =>
    apply single connectorId
    apply holds_bind keepsValid_trans (keepsValid_setup (@same_setup_success [] runtime))
    intro _
    exact keepsValid_health runtime true ""
  | healthFailure connectorId note =>
    apply single connectorId
    apply holds_bind keepsValid_trans (keepsValid_setup (@same_setup_failure [] runtime _))
    intro _
    exact keepsValid_health runtime false _
  | webhook connectorId request =>
    have handled : (handleConnectorWebhook runtime connectorId request).Ends store fun _ after => AllValid after := by
      have every := every_webhook runtime connectorId request store
      apply valid.every
      constructor
      · exact every.ticks
      · exact every.kept
      · intro otherId later stored
        obtain ⟨earlier, found, same⟩ := every.each otherId later stored
        exact ⟨earlier, found, fun held => held.of_same same.toSameAttributes⟩
    exact Ends.dropped () handled

theorem next_keeps_valid (request : ConnectorRequest) {store : ConnectorStore} (valid : AllValid store)
    (fits : changesFit store request) : AllValid ((connectorMachine runtime).next store request) :=
  request_keeps_valid runtime request valid fits

/-- Where every change fits the constraints of creation, all stored connectors satisfy them. -/
theorem connector_records_stay_valid {store : ConnectorStore}
    (reachable : Machine.Reachable (connectorMachine runtime) changesFit store) {connectorId : String}
    {connector : AgentConnector} (stored : store.connectors.get? connectorId = some connector) : ValidConnector connector := by
  have valid : AllValid store := by
    apply reachable.invariant
    · intro first initial connectorId connector found
      rw [show first.connectors = .empty from initial] at found
      cases found
    · intro state request valid fits
      exact next_keeps_valid runtime request valid fits
  exact valid connectorId connector stored

end Steps

section Sample

def sampleCreation : ConnectorCreate where
  name := " bridge "
  connectorType := .webhook
  providerLabel := .custom
  endpointUrl := some "https://tools.example/hook"
  callbackUrl := none
  authType := .bearer
  allowedProjectIds := []
  allowedRepositories := []
  allowedActions := [.createAgentTask]
  rateLimitPerMinute := ⟨60, by decide⟩
  enabled := true
  config := .empty

/-- A change that sends nothing but the fields of `sampleRename`. -/
def unchanged : ConnectorUpdate where
  name := none
  connectorType := none
  providerLabel := none
  endpointUrl := none
  callbackUrl := none
  authType := none
  allowedProjectIds := none
  allowedRepositories := none
  allowedActions := none
  rateLimitPerMinute := none
  enabled := none
  config := none

def emptyConnectors : ConnectorStore := ⟨0, [], .empty, .empty, .empty⟩

def sampleOwnerUser : AuthUser := ⟨"user_1", "owner@tower.example", .owner⟩

/-- Create a connector and send a change for its name. -/
def renameRequests (name : Option String) : List ConnectorRequest :=
  [.create sampleCreation sampleOwnerUser, .update "connector_" { unchanged with name := some name }]

def renamedStore (name : Option String) : ConnectorStore :=
  (connectorMachine (.plain [])).runAll emptyConnectors (renameRequests name)

def renamedConnector (name : Option String) : Option AgentConnector := (renamedStore name).connectors.get? "connector_"

theorem renamed_name (name : Option String) : (renamedConnector name).map (·.name) = some name := rfl

/-- A field that is left out is not null. -/
theorem left_out {α : Type} : (none : Option (Option α)) ≠ some none := by
  intro same
  cases same

theorem unchanged_fits {name : String} (canonical : ConnectorName name) :
    FitsCreation { unchanged with name := some (some name) } where
  name := by
    intro value sent
    cases sent
    exact ⟨name, rfl, canonical⟩
  connectorType := left_out
  providerLabel := left_out
  endpointUrl := by
    intro url sent
    cases sent
  callbackUrl := by
    intro url sent
    cases sent
  authType := left_out
  allowedProjectIds := left_out
  allowedRepositories := left_out
  allowedActions := left_out
  rateLimitPerMinute := left_out

theorem bridge_name : ConnectorName "second bridge" := ⟨by decide, by decide, by decide⟩

theorem renamed_reachable :
    Machine.Reachable (connectorMachine (.plain [])) changesFit (renamedStore (some "second bridge")) := by
  refine ⟨emptyConnectors, rfl, ?_⟩
  apply Machine.follows_runAll
  exact ⟨trivial, unchanged_fits bridge_name, trivial⟩

theorem renamed_stays_valid : ∃ connector, renamedConnector (some "second bridge") = some connector ∧
    connector.name = some "second bridge" ∧ ValidConnector connector := by
  have named := renamed_name (some "second bridge")
  cases stored : renamedConnector (some "second bridge") with
  | none =>
    rw [stored] at named
    cases named
  | some connector =>
    rw [stored] at named
    exact ⟨connector, rfl, Option.some.inj named,
      connector_records_stay_valid (.plain []) renamed_reachable stored⟩

/-- A change that sends a null name is stored. -/
theorem null_name_stored : ¬ ∀ (runtime : ConnectorRuntime) (store : ConnectorStore),
    Machine.Reachable (connectorMachine runtime) Machine.anything store →
      ∀ connectorId connector, store.connectors.get? connectorId = some connector → ValidConnector connector := by
  intro always
  have reachable : Machine.Reachable (connectorMachine (.plain [])) Machine.anything (renamedStore none) :=
    ⟨emptyConnectors, rfl, Machine.follows_anything _ _⟩
  have named := renamed_name none
  cases stored : renamedConnector none with
  | none =>
    rw [stored] at named
    cases named
  | some connector =>
    rw [stored] at named
    have nameless : connector.name = none := Option.some.inj named
    obtain ⟨name, present, _⟩ := (always _ _ reachable "connector_" connector stored).name
    rw [nameless] at present
    cases present

end Sample

end ControlTower.Connectors
