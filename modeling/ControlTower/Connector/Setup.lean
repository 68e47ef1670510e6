import ControlTower.Connector.Routes

/-! What the operations of a connector leave as it is: the attributes that a request
model checks, and for the webhook the whole setup of the connector. -/

set_option autoImplicit false

namespace ControlTower.Connectors

open Foundation
open Foundation.Procedure

/-- The attributes that creation and changes assign are the same. -/
structure SameAttributes (before after : AgentConnector) : Prop where
  id : after.id = before.id
  name : after.name = before.name
  connectorType : after.connectorType = before.connectorType
  providerLabel : after.providerLabel = before.providerLabel
  endpointUrl : after.endpointUrl = before.endpointUrl
  callbackUrl : after.callbackUrl = before.callbackUrl
  authType : after.authType = before.authType
  allowedProjectIds : after.allowedProjectIds = before.allowedProjectIds
  allowedRepositories : after.allowedRepositories = before.allowedRepositories
  allowedActions : after.allowedActions = before.allowedActions
  rateLimitPerMinute : after.rateLimitPerMinute = before.rateLimitPerMinute

/-- The keys of the configuration that a webhook writes. -/
def webhookKeys : List String :=
  ["rate_limit_window_started_at", "rate_limit_request_count", "hmac_nonce_history"]

/-- Attributes, status and secret are the same, and so is the configuration outside the written keys. -/
structure SameSetup (written : List String) (before after : AgentConnector) : Prop
    extends SameAttributes before after where
  status : after.status = before.status
  secretRef : after.secretRef = before.secretRef
  config : ∀ key, key ∉ written → after.config.get? key = before.config.get? key

theorem SameAttributes.refl (connector : AgentConnector) : SameAttributes connector connector :=
  ⟨rfl, rfl, rfl, rfl, rfl, rfl, rfl, rfl, rfl, rfl, rfl⟩

theorem SameAttributes.trans {first second third : AgentConnector} (left : SameAttributes first second)
    (right : SameAttributes second third) : SameAttributes first third :=
  ⟨right.id.trans left.id, right.name.trans left.name, right.connectorType.trans left.connectorType,
    right.providerLabel.trans left.providerLabel, right.endpointUrl.trans left.endpointUrl,
    right.callbackUrl.trans left.callbackUrl, right.authType.trans left.authType,
    right.allowedProjectIds.trans left.allowedProjectIds, right.allowedRepositories.trans left.allowedRepositories,
    right.allowedActions.trans left.allowedActions, right.rateLimitPerMinute.trans left.rateLimitPerMinute⟩

variable {written : List String}

theorem SameSetup.refl (connector : AgentConnector) : SameSetup written connector connector :=
  ⟨.refl connector, rfl, rfl, fun _ _ => rfl⟩

theorem SameSetup.trans {first second third : AgentConnector} (left : SameSetup written first second)
    (right : SameSetup written second third) : SameSetup written first third :=
  ⟨left.toSameAttributes.trans right.toSameAttributes, right.status.trans left.status,
    right.secretRef.trans left.secretRef, fun key other => (right.config key other).trans (left.config key other)⟩

theorem SameSetup.transitive (first second third : AgentConnector) (left : SameSetup written first second)
    (right : SameSetup written second third) : SameSetup written first third :=
  left.trans right

section Frames

/-- From its first to its last state a procedure relates the connector, and the clock does not go back. -/
def Holds {α : Type} (relation : AgentConnector → AgentConnector → Prop) (body : CaseProcedure α) : Prop :=
  Guarantees (fun before after => relation before.connector after.connector ∧ before.ticks ≤ after.ticks) body

variable {α β : Type} {relation : AgentConnector → AgentConnector → Prop}

theorem holds_bind (transitive : ∀ a b c, relation a b → relation b c → relation a c) {first : CaseProcedure α}
    {next : α → CaseProcedure β} (start : Holds relation first) (rest : ∀ value, Holds relation (next value)) :
    Holds relation (first >>= next) :=
  guarantees_bind (fun _ _ _ left right => ⟨transitive _ _ _ left.1 right.1, Nat.le_trans left.2 right.2⟩) start rest

theorem holds_pure (reflexive : ∀ a, relation a a) (value : α) : Holds relation (pure value : CaseProcedure α) :=
  fun state => ⟨reflexive state.connector, Nat.le_refl _⟩

theorem holds_raise (reflexive : ∀ a, relation a a) (error : Raised) :
    Holds relation (raise error : CaseProcedure α) :=
  fun state => ⟨reflexive state.connector, Nat.le_refl _⟩

theorem holds_readClock (reflexive : ∀ a, relation a a) (runtime : Runtime) :
    Holds relation (readClock runtime : CaseProcedure Instant) :=
  fun state => ⟨reflexive state.connector, Nat.le_succ _⟩

theorem holds_current (reflexive : ∀ a, relation a a) : Holds relation currentConnector :=
  fun state => ⟨reflexive state.connector, Nat.le_refl _⟩

theorem holds_change {change : AgentConnector → AgentConnector} (changes : ∀ connector, relation connector (change connector)) :
    Holds relation (changeConnector change) :=
  fun state => ⟨changes state.connector, Nat.le_refl _⟩

theorem holds_demand (reflexive : ∀ a, relation a a) {condition : Prop} [Decidable condition] (error : Raised) :
    Holds relation (demand condition error : CaseProcedure Unit) :=
  guarantees_demand (fun state => ⟨reflexive state.connector, Nat.le_refl _⟩) error

theorem holds_found (reflexive : ∀ a, relation a a) (value : Option α) (error : Raised) :
    Holds relation (found value error : CaseProcedure α) :=
  guarantees_found (fun state => ⟨reflexive state.connector, Nat.le_refl _⟩) value error

theorem holds_ite {choice : Prop} [Decidable choice] {yes no : CaseProcedure α} (whenYes : Holds relation yes)
    (whenNo : Holds relation no) : Holds relation (if choice then yes else no) :=
  guarantees_ite whenYes whenNo

theorem holds_rescue (transitive : ∀ a b c, relation a b → relation b c → relation a c) {body : CaseProcedure α}
    {handler : Raised → CaseProcedure α} (first : Holds relation body) (handles : ∀ error, Holds relation (handler error)) :
    Holds relation (rescue body handler) :=
  guarantees_rescue (fun _ _ _ left right => ⟨transitive _ _ _ left.1 right.1, Nat.le_trans left.2 right.2⟩) first handles

theorem Holds.mono {wide : AgentConnector → AgentConnector → Prop} {body : CaseProcedure α}
    (holds : Holds relation body) (widen : ∀ before after, relation before after → wide before after) : Holds wide body :=
  fun state => ⟨widen _ _ (holds state).1, (holds state).2⟩

end Frames

section Webhook

variable (runtime : ConnectorRuntime)

/-- Writing a key of the webhook keeps the setup. -/
theorem same_setup_set (connector : AgentConnector) {key : String} (member : key ∈ written) (value : Document)
    (updatedAt : Instant) : SameSetup written connector { connector with config := connector.config.set key value, updatedAt } := by
  constructor
  · constructor <;> rfl
  · rfl
  · rfl
  · intro other apart
    apply Table.get?_set_other
    rintro rfl
    exact apart member

theorem same_setup_failure (reason : String) : Holds (SameSetup written) (recordConnectorAuthFailure runtime reason) := by
  apply holds_bind SameSetup.transitive
  · exact holds_readClock SameSetup.refl _
  · intro updatedAt
    exact holds_change fun connector => ⟨by constructor <;> rfl, rfl, rfl, fun _ _ => rfl⟩

theorem same_setup_success : Holds (SameSetup written) (recordConnectorAuthSuccess runtime) := by
  apply holds_bind SameSetup.transitive
  · exact holds_readClock SameSetup.refl _
  · intro lastUsedAt
    apply holds_bind SameSetup.transitive
    · exact holds_readClock SameSetup.refl _
    · intro updatedAt
      exact holds_change fun connector => ⟨by constructor <;> rfl, rfl, rfl, fun _ _ => rfl⟩

theorem same_setup_refuse {α : Type} (reason detail : String) :
    Holds (SameSetup written) (refuseAuth runtime reason detail : CaseProcedure α) := by
  apply holds_bind SameSetup.transitive
  · exact same_setup_failure runtime reason
  · intro _
    exact holds_raise SameSetup.refl _

theorem same_setup_storeHistory (kept : "hmac_nonce_history" ∈ written) (history : Table String Int) : Holds (SameSetup written) (storeHistory runtime history) := by
  apply holds_bind SameSetup.transitive
  · exact holds_readClock SameSetup.refl _
  · intro updatedAt
    exact holds_change fun connector => same_setup_set connector kept _ updatedAt

theorem same_setup_notReplayed (kept : "hmac_nonce_history" ∈ written) (nonce : String) (nowEpoch : Int) :
    Holds (SameSetup written) (assertHmacV1NotReplayed runtime nonce nowEpoch) := by
  apply holds_bind SameSetup.transitive
  · exact holds_current SameSetup.refl
  · intro connector
    apply holds_ite
    · apply holds_bind SameSetup.transitive
      · exact same_setup_storeHistory runtime kept _
      · intro _
        exact holds_raise SameSetup.refl _
    · exact same_setup_storeHistory runtime kept _

theorem same_setup_timestamp (timestamp : Option String) : Holds (SameSetup written) (parseUnixTimestamp runtime timestamp) := by
  apply holds_bind SameSetup.transitive
  · exact holds_demand SameSetup.refl _
  · intro _
    exact holds_found SameSetup.refl _ _

theorem same_setup_hmac (kept : "hmac_nonce_history" ∈ written) (storedHash : String) (request : WebhookRequest) :
    Holds (SameSetup written) (authenticateHmacV1 runtime storedHash request) := by
  apply holds_bind SameSetup.transitive (holds_demand SameSetup.refl _)
  intro _
  apply holds_bind SameSetup.transitive (holds_demand SameSetup.refl _)
  intro _
  apply holds_bind SameSetup.transitive (holds_demand SameSetup.refl _)
  intro _
  apply holds_bind SameSetup.transitive (same_setup_timestamp runtime _)
  intro timestampEpoch
  apply holds_bind SameSetup.transitive (holds_readClock SameSetup.refl _)
  intro now
  apply holds_bind SameSetup.transitive (holds_demand SameSetup.refl _)
  intro _
  apply holds_bind SameSetup.transitive (holds_demand SameSetup.refl _)
  intro _
  exact same_setup_notReplayed runtime kept _ _

theorem same_setup_bearer (storedHash : String) (request : WebhookRequest) :
    Holds (SameSetup written) (authenticateBearer runtime storedHash request) := by
  apply holds_ite
  · exact same_setup_refuse runtime _ _
  · apply holds_ite
    · exact same_setup_refuse runtime _ _
    · exact holds_pure SameSetup.refl ()

theorem same_setup_credentials (kept : "hmac_nonce_history" ∈ written) (authType : Option ConnectorAuthType) (storedHash : String) (request : WebhookRequest) :
    Holds (SameSetup written) (checkCredentials runtime authType storedHash request) := by
  unfold checkCredentials
  split
  · exact same_setup_bearer runtime _ request
  · exact same_setup_bearer runtime _ request
  · apply holds_rescue SameSetup.transitive (same_setup_hmac runtime kept _ request)
    intro error
    apply holds_bind SameSetup.transitive (same_setup_failure runtime _)
    intro _
    exact holds_raise SameSetup.refl _
  · exact holds_raise SameSetup.refl _

theorem same_setup_authenticate (kept : "hmac_nonce_history" ∈ written) (request : WebhookRequest) : Holds (SameSetup written) (authenticateConnector runtime request) := by
  apply holds_bind SameSetup.transitive (holds_current SameSetup.refl)
  intro connector
  apply holds_ite
  · exact same_setup_refuse runtime _ _
  · apply holds_ite
    · exact holds_raise SameSetup.refl _
    · apply holds_ite
      · exact same_setup_refuse runtime _ _
      · apply holds_bind SameSetup.transitive (same_setup_credentials runtime kept _ _ request)
        intro _
        exact same_setup_success runtime

theorem same_setup_rateLimit (started : "rate_limit_window_started_at" ∈ written)
    (counted : "rate_limit_request_count" ∈ written) : Holds (SameSetup written) (enforceConnectorRateLimit runtime) := by
  apply holds_bind SameSetup.transitive (holds_current SameSetup.refl)
  intro connector
  apply holds_bind SameSetup.transitive (holds_readClock SameSetup.refl _)
  intro now
  apply holds_bind SameSetup.transitive (holds_found SameSetup.refl _ _)
  intro count
  apply holds_bind SameSetup.transitive (holds_found SameSetup.refl _ _)
  intro starts
  apply holds_ite
  · apply holds_change
    intro connector
    exact (same_setup_set connector started _ now).trans (same_setup_set _ counted (.number 1) now)
  · apply holds_bind SameSetup.transitive (holds_found SameSetup.refl _ _)
    intro limit
    apply holds_bind SameSetup.transitive
    · exact holds_change fun connector => same_setup_set connector counted _ now
    · intro _
      exact holds_demand SameSetup.refl _

end Webhook

section Store

/-- Every connector that is stored later was stored before and is related to what it
was, none is lost, and the clock does not go back. -/
structure EveryConnector (relation : AgentConnector → AgentConnector → Prop) (before after : ConnectorStore) : Prop where
  ticks : before.ticks ≤ after.ticks
  kept : ∀ connectorId, before.connectors.get? connectorId ≠ none → after.connectors.get? connectorId ≠ none
  each : ∀ connectorId later, after.connectors.get? connectorId = some later →
    ∃ earlier, before.connectors.get? connectorId = some earlier ∧ relation earlier later

theorem every_refl (store : ConnectorStore) : EveryConnector (SameSetup written) store store :=
  ⟨Nat.le_refl _, fun _ => id, fun _ later stored => ⟨later, stored, .refl later⟩⟩

theorem every_trans (first second third : ConnectorStore) (left : EveryConnector (SameSetup written) first second)
    (right : EveryConnector (SameSetup written) second third) : EveryConnector (SameSetup written) first third := by
  constructor
  · exact Nat.le_trans left.ticks right.ticks
  · exact fun connectorId present => right.kept connectorId (left.kept connectorId present)
  · intro connectorId last stored
    obtain ⟨middle, between, onward⟩ := right.each connectorId last stored
    obtain ⟨earlier, before, toward⟩ := left.each connectorId middle between
    exact ⟨earlier, before, toward.trans onward⟩

/-- Work on one connector relates what it was to what it is, and leaves the others alone. -/
theorem onConnector_ends {α : Type} (connectorId : String) (body : CaseProcedure α) (store : ConnectorStore) :
    (onConnector connectorId body).Ends store fun _ after =>
      ∀ otherId later, after.connectors.get? otherId = some later →
        ∃ earlier, store.connectors.get? otherId = some earlier ∧
          later = if otherId = connectorId then (body.run ⟨store.ticks, earlier⟩).2.connector else earlier := by
  unfold Ends onConnector
  dsimp only
  cases stored : store.connectors.get? connectorId with
  | none =>
    intro otherId later found
    by_cases same : otherId = connectorId
    · rw [same, stored] at found
      cases found
    · exact ⟨later, found, (if_neg same).symm⟩
  | some connector =>
    intro otherId later found
    dsimp only at found
    rw [Table.get?_set] at found
    split at found
    · rename_i same
      cases found
      exact ⟨connector, same ▸ stored, (if_pos same).symm⟩
    · rename_i other
      exact ⟨later, found, (if_neg other).symm⟩

theorem onConnector_ticks {α : Type} {relation : AgentConnector → AgentConnector → Prop} (connectorId : String)
    {body : CaseProcedure α} (holds : Holds relation body) :
    Guarantees (fun before after => before.ticks ≤ after.ticks) (onConnector connectorId body) := by
  intro store
  unfold onConnector
  dsimp only
  cases store.connectors.get? connectorId with
  | none => exact Nat.le_refl _
  | some connector => exact (holds ⟨store.ticks, connector⟩).2

theorem onConnector_kept {α : Type} (connectorId : String) (body : CaseProcedure α) (store : ConnectorStore) :
    (onConnector connectorId body).Ends store fun _ after =>
      ∀ otherId, store.connectors.get? otherId ≠ none → after.connectors.get? otherId ≠ none := by
  unfold Ends onConnector
  dsimp only
  cases store.connectors.get? connectorId with
  | none => exact fun _ present => present
  | some connector =>
    intro otherId present
    dsimp only
    rw [Table.get?_set]
    split
    · exact Option.some_ne_none _
    · exact present

theorem every_onConnector {α : Type} {relation : AgentConnector → AgentConnector → Prop}
    (reflexive : ∀ connector, relation connector connector) (connectorId : String) {body : CaseProcedure α}
    (holds : Holds relation body) : Guarantees (EveryConnector relation) (onConnector connectorId body) := by
  intro store
  constructor
  · exact onConnector_ticks connectorId holds store
  · exact onConnector_kept connectorId body store
  · intro otherId later stored
    obtain ⟨earlier, found, result⟩ := onConnector_ends connectorId body store otherId later stored
    have related : relation earlier later := by
      rw [result]
      split
      · exact (holds ⟨store.ticks, earlier⟩).1
      · exact reflexive earlier
    exact ⟨earlier, found, related⟩

/-- The table of connectors is left alone, and the clock does not go back. -/
structure SameConnectors (before after : ConnectorStore) : Prop where
  ticks : before.ticks ≤ after.ticks
  connectors : after.connectors = before.connectors

theorem sameConnectors_refl (store : ConnectorStore) : SameConnectors store store := ⟨Nat.le_refl _, rfl⟩

theorem sameConnectors_trans (first second third : ConnectorStore) (left : SameConnectors first second)
    (right : SameConnectors second third) : SameConnectors first third :=
  ⟨Nat.le_trans left.ticks right.ticks, right.connectors.trans left.connectors⟩

theorem SameConnectors.every {before after : ConnectorStore} (same : SameConnectors before after) :
    EveryConnector (SameSetup written) before after := by
  constructor
  · exact same.ticks
  · intro connectorId present
    rwa [same.connectors]
  · intro connectorId later stored
    rw [same.connectors] at stored
    exact ⟨later, stored, .refl later⟩

variable (runtime : ConnectorRuntime)

theorem same_action (connector : AgentConnector) (action : AgentAction) :
    Guarantees SameConnectors (assertConnectorAction connector action : ConnectorProcedure Unit) := by
  apply guarantees_bind sameConnectors_trans (guarantees_found sameConnectors_refl _ _)
  intro allowed
  exact guarantees_demand sameConnectors_refl _

theorem same_scope (connector : AgentConnector) (projectId repository : Option String) :
    Guarantees SameConnectors (assertConnectorScope connector projectId repository : ConnectorProcedure Unit) := by
  apply guarantees_bind sameConnectors_trans (guarantees_demand sameConnectors_refl _)
  intro _
  exact guarantees_demand sameConnectors_refl _

theorem same_metadata (connector : AgentConnector) (metadata : List (String × Document)) :
    Guarantees SameConnectors (safeMetadata connector metadata : ConnectorProcedure Config) := by
  apply guarantees_bind sameConnectors_trans (guarantees_demand sameConnectors_refl _)
  intro _
  exact guarantees_pure sameConnectors_refl _

theorem same_readClock : Guarantees SameConnectors (readClock runtime.toRuntime : ConnectorProcedure Instant) :=
  fun _ => ⟨Nat.le_succ _, rfl⟩

theorem same_fileEvent (taskId : String) (eventType : AgentTaskEventType) (message : String)
    (status : Option AgentTaskStatus) (actor : String) (metadata : List (String × Document)) :
    Guarantees SameConnectors (fileTaskEvent runtime taskId eventType message status actor metadata) := by
  apply guarantees_bind sameConnectors_trans (same_readClock runtime)
  intro createdAt store
  exact ⟨Nat.le_refl _, rfl⟩

theorem same_status (taskId : String) (status : Option AgentTaskStatus) :
    Guarantees SameConnectors (assignStatus runtime taskId status) := by
  cases status with
  | none => exact guarantees_pure sameConnectors_refl ()
  | some status =>
    apply guarantees_bind sameConnectors_trans (same_readClock runtime)
    intro updatedAt store
    exact ⟨Nat.le_refl _, rfl⟩

theorem same_create (connector : AgentConnector) (payload : ConnectorWebhookPayload) :
    Guarantees SameConnectors (createTaskFromConnector runtime connector payload) := by
  apply guarantees_bind sameConnectors_trans (same_action connector _)
  intro _
  apply guarantees_bind sameConnectors_trans (guarantees_demand sameConnectors_refl _)
  intro _
  apply guarantees_bind sameConnectors_trans (guarantees_state sameConnectors_refl)
  intro store
  apply guarantees_bind sameConnectors_trans (guarantees_demand sameConnectors_refl _)
  intro _
  apply guarantees_bind sameConnectors_trans (guarantees_demand sameConnectors_refl _)
  intro _
  apply guarantees_bind sameConnectors_trans (same_scope connector _ _)
  intro _
  apply guarantees_bind sameConnectors_trans (same_metadata connector _)
  intro metadata
  apply guarantees_bind sameConnectors_trans (same_readClock runtime)
  intro createdAt
  apply guarantees_bind sameConnectors_trans (same_readClock runtime)
  intro updatedAt
  apply guarantees_bind sameConnectors_trans
  · intro store
    exact ⟨Nat.le_refl _, rfl⟩
  · intro taskId
    apply guarantees_bind sameConnectors_trans (same_fileEvent runtime _ _ _ _ _ _)
    intro eventId
    exact guarantees_pure sameConnectors_refl _

theorem same_append (connector : AgentConnector) (payload : ConnectorWebhookPayload) :
    Guarantees SameConnectors (appendTaskEventFromConnector runtime connector payload) := by
  apply guarantees_bind sameConnectors_trans (same_action connector _)
  intro _
  apply guarantees_bind sameConnectors_trans (guarantees_demand sameConnectors_refl _)
  intro _
  apply guarantees_bind sameConnectors_trans (guarantees_state sameConnectors_refl)
  intro store
  apply guarantees_bind sameConnectors_trans (guarantees_found sameConnectors_refl _ _)
  intro task
  apply guarantees_bind sameConnectors_trans (guarantees_demand sameConnectors_refl _)
  intro _
  apply guarantees_bind sameConnectors_trans (same_scope connector _ _)
  intro _
  apply guarantees_bind sameConnectors_trans (same_status runtime _ _)
  intro _
  apply guarantees_bind sameConnectors_trans (same_metadata connector _)
  intro metadata
  apply guarantees_bind sameConnectors_trans (same_fileEvent runtime _ _ _ _ _ _)
  intro eventId
  exact guarantees_pure sameConnectors_refl _

theorem every_of_same {α : Type} {body : ConnectorProcedure α} (same : Guarantees SameConnectors body) :
    Guarantees (EveryConnector (SameSetup written)) body :=
  fun store => (same store).every

theorem every_connectorOr404 (connectorId : String) :
    Guarantees (EveryConnector (SameSetup written)) (connectorOr404 connectorId) := by
  apply every_of_same
  apply guarantees_bind sameConnectors_trans (guarantees_state sameConnectors_refl)
  intro store
  exact guarantees_found sameConnectors_refl _ _

theorem every_perform (connectorId : String) (payload : ConnectorWebhookPayload) :
    Guarantees (EveryConnector (SameSetup written)) (performAction runtime connectorId payload) := by
  apply guarantees_bind every_trans (every_connectorOr404 connectorId)
  intro connector
  apply guarantees_rescue every_trans
  · apply every_of_same
    split
    · exact same_create runtime connector payload
    · exact same_append runtime connector payload
    · exact guarantees_raise sameConnectors_refl _
  · intro error
    apply guarantees_bind every_trans
    · apply guarantees_onlyIf every_refl
      exact every_onConnector SameSetup.refl connectorId (same_setup_failure runtime _)
    · intro _
      exact guarantees_raise every_refl _

/-- Behind authentication and rate limit a webhook writes no configuration. -/
theorem every_payload (connectorId : String) (request : WebhookRequest) :
    Guarantees (EveryConnector (SameSetup written)) (handlePayload runtime connectorId request) := by
  apply guarantees_bind every_trans (every_connectorOr404 connectorId)
  intro connector
  split
  · exact every_perform runtime connectorId _
  · apply guarantees_bind every_trans
    · exact every_onConnector SameSetup.refl connectorId (same_setup_failure runtime _)
    · intro _
      exact guarantees_raise every_refl _

theorem same_setup_admitted (request : WebhookRequest) : Holds (SameSetup webhookKeys) (admitRequest runtime request) := by
  apply holds_bind SameSetup.transitive (same_setup_authenticate runtime (by decide) request)
  intro _
  exact same_setup_rateLimit runtime (by decide) (by decide)

/-- A webhook changes no setup. -/
theorem every_webhook (connectorId : String) (request : WebhookRequest) :
    Guarantees (EveryConnector (SameSetup webhookKeys)) (handleConnectorWebhook runtime connectorId request) := by
  apply guarantees_bind every_trans
  · exact every_onConnector SameSetup.refl connectorId (same_setup_admitted runtime request)
  · intro _
    exact every_payload runtime connectorId request

end Store

end ControlTower.Connectors
