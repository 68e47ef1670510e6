import ControlTower.Connector.Credentials

/-! Replays of signed webhook requests. The nonce history refuses a replay as long as
it holds the nonce, and it holds a nonce for as long as the timestamp is in its window
unless the bound on the number of tracked nonces drops it before. -/

set_option autoImplicit false

namespace ControlTower.Connectors

open Foundation
open Foundation.Procedure

variable (runtime : ConnectorRuntime)

def historyKey : String := "hmac_nonce_history"

section History

variable {runtime} {nowEpoch : Int}

theorem youngNonces_absent {nonce : String} {rows : List (String × Int)} (absent : nonce ∉ rows.map Prod.fst)
    (cleaned : Table String Int) :
    (youngNonces runtime nowEpoch (rows.map fun row => (row.1, .number row.2)) cleaned).get? nonce = cleaned.get? nonce := by
  induction rows generalizing cleaned with
  | nil => rfl
  | cons row rest ih =>
    obtain ⟨apart, later⟩ : nonce ≠ row.1 ∧ nonce ∉ rest.map Prod.fst := by simpa using absent
    rw [List.map_cons]
    unfold youngNonces
    dsimp only [intOf]
    rw [ih later]
    split
    · exact Table.get?_set_other _ _ apart
    · rfl

theorem youngNonces_present {nonce : String} {rows : List (String × Int)} (distinct : (rows.map Prod.fst).Nodup)
    {seen : Int} (found : Table.lookup nonce rows = some seen) (young : nowEpoch - seen ≤ hmacNonceTtlSeconds)
    (cleaned : Table String Int) :
    (youngNonces runtime nowEpoch (rows.map fun row => (row.1, .number row.2)) cleaned).get? nonce = some seen := by
  induction rows generalizing cleaned with
  | nil => cases found
  | cons row rest ih =>
    obtain ⟨first, others⟩ := List.nodup_cons.mp distinct
    rw [List.map_cons]
    unfold youngNonces
    dsimp only [intOf]
    unfold Table.lookup at found
    split at found
    · rename_i here
      cases found
      subst here
      rw [youngNonces_absent first, if_pos young]
      exact Table.get?_set_self _ _ _
    · exact ih others found _

/-- The configuration tracks a nonce since a time. -/
def Tracks (config : Config) (nonce : String) (seen : Int) : Prop :=
  ∃ history : Table String Int, config.get? historyKey = some (historyDocument history) ∧ history.get? nonce = some seen

theorem Tracks.young {config : Config} {nonce : String} {seen : Int} (tracks : Tracks config nonce seen)
    (young : nowEpoch - seen ≤ hmacNonceTtlSeconds) : (trackedNonces runtime config nowEpoch).get? nonce = some seen := by
  obtain ⟨history, stored, found⟩ := tracks
  unfold trackedNonces Config.value
  rw [show config.get? "hmac_nonce_history" = some (historyDocument history) from stored]
  exact youngNonces_present history.distinct found young .empty

/-- The bound on the number of tracked nonces does not apply. -/
def WithinCap (config : Config) (nowEpoch : Int) : Prop :=
  (trackedNonces runtime config nowEpoch).rows.length ≤ hmacMaxTrackedNonces

/-- Within the bound a tracked nonce stays while it is young. -/
theorem Tracks.cleaned {config : Config} {nonce : String} {seen : Int} (tracks : Tracks config nonce seen)
    (young : nowEpoch - seen ≤ hmacNonceTtlSeconds)
    (within : (trackedNonces runtime config nowEpoch).rows.length ≤ hmacMaxTrackedNonces) :
    (cleanHmacNonceHistory runtime config nowEpoch).get? nonce = some seen := by
  unfold cleanHmacNonceHistory
  rw [if_neg (Nat.not_lt.mpr within)]
  exact tracks.young young

end History

section Guard

/-- What the replay guard does to the nonce history at a time. -/
inductive HistoryStep (nowEpoch : Int) (before after : AgentConnector) : Prop where
  | same (unchanged : after.config.get? historyKey = before.config.get? historyKey)
  | cleaned (stored : after.config.get? historyKey =
      some (historyDocument (cleanHmacNonceHistory runtime before.config nowEpoch)))
  | added (nonce : String) (fresh : (cleanHmacNonceHistory runtime before.config nowEpoch).get? nonce = none)
      (stored : after.config.get? historyKey =
        some (historyDocument ((cleanHmacNonceHistory runtime before.config nowEpoch).set nonce nowEpoch)))

/-- A signed message as the signature covers it. -/
structure SignedMessage where
  nonce : String
  timestamp : Int
  body : List UInt8
  deriving DecidableEq

/-- The message of a request that passes the checks of the signature. -/
def WebhookRequest.message (request : WebhookRequest) : SignedMessage :=
  ⟨request.nonce.getD "", (request.timestamp.bind runtime.intOfText).getD 0, request.body⟩

/-- A message that was accepted: its timestamp was in the window, and its nonce was new and is tracked from now on. -/
structure AcceptedAt (nowEpoch : Int) (message : SignedMessage) (before after : AgentConnector) : Prop where
  window : |nowEpoch - message.timestamp| ≤ hmacTimestampToleranceSeconds
  fresh : (cleanHmacNonceHistory runtime before.config nowEpoch).get? message.nonce = none
  stored : after.config.get? historyKey =
    some (historyDocument ((cleanHmacNonceHistory runtime before.config nowEpoch).set message.nonce nowEpoch))

theorem AcceptedAt.tracks {nowEpoch : Int} {message : SignedMessage} {before after : AgentConnector}
    (accepted : AcceptedAt runtime nowEpoch message before after) : Tracks after.config message.nonce nowEpoch :=
  ⟨_, accepted.stored, Table.get?_set_self _ _ _⟩

/-- The outcome of the check at a time: the guard's step, and for a success the accepted message. -/
structure GuardedBy (nowEpoch : Int) (request : WebhookRequest) (before : AgentConnector) (outcome : Except Raised Unit)
    (after : AgentConnector) : Prop where
  step : HistoryStep runtime nowEpoch before after
  accepted : outcome = .ok () → AcceptedAt runtime nowEpoch (request.message runtime) before after

theorem guarded_refusal {nowEpoch : Int} {request : WebhookRequest} {connector : AgentConnector} (error : Raised) :
    GuardedBy runtime nowEpoch request connector (.error error) connector :=
  ⟨.same rfl, fun impossible => by cases impossible⟩

theorem notReplayed_guarded (request : WebhookRequest) (nowEpoch : Int) (state : ConnectorCase)
    (window : |nowEpoch - (request.message runtime).timestamp| ≤ hmacTimestampToleranceSeconds) :
    (assertHmacV1NotReplayed runtime (request.nonce.getD "") nowEpoch).Ends state fun outcome after =>
      GuardedBy runtime nowEpoch request state.connector outcome after.connector := by
  unfold assertHmacV1NotReplayed
  rw [ends_bind, ends_currentConnector, continue_ok, ends_ite]
  constructor
  · intro known
    rw [ends_bind]
    change GuardedBy runtime nowEpoch request state.connector (.error _) _
    constructor
    · exact .cleaned (Table.get?_set_self _ _ _)
    · intro impossible
      cases impossible
  · intro unknown
    have fresh : (cleanHmacNonceHistory runtime state.connector.config nowEpoch).get? (request.nonce.getD "") = none := by
      simpa using unknown
    change GuardedBy runtime nowEpoch request state.connector (.ok ()) _
    constructor
    · exact .added _ fresh (Table.get?_set_self _ _ _)
    · intro _
      exact ⟨window, fresh, Table.get?_set_self _ _ _⟩

theorem hmac_guarded (storedHash : String) (request : WebhookRequest) (state : ConnectorCase) :
    (authenticateHmacV1 runtime storedHash request).Ends state fun outcome after =>
      GuardedBy runtime (epochSeconds (runtime.clock state.ticks)) request state.connector outcome after.connector := by
  unfold authenticateHmacV1
  apply ends_guard
  · exact guarded_refusal runtime _
  intro version
  apply ends_guard
  · exact guarded_refusal runtime _
  intro signed
  apply ends_guard
  · exact guarded_refusal runtime _
  intro nonced
  unfold parseUnixTimestamp
  rw [ends_bind]
  apply ends_guard
  · exact guarded_refusal runtime _
  intro timed
  rw [ends_found]
  constructor
  · intro timestampEpoch parsed
    rw [continue_ok, ends_bind, ends_readClock, continue_ok]
    apply ends_guard
    · exact guarded_refusal runtime _
    intro window
    apply ends_guard
    · exact guarded_refusal runtime _
    intro matching
    -- what is left is the check of the nonce
    apply notReplayed_guarded runtime request
    unfold WebhookRequest.message
    rw [parsed]
    exact window
  · intro unreadable
    exact guarded_refusal runtime _

variable {runtime}

theorem same_history {before after : AgentConnector} (same : SameSetup [] before after) :
    after.config.get? historyKey = before.config.get? historyKey :=
  same.config historyKey List.not_mem_nil

theorem HistoryStep.onward {nowEpoch : Int} {before middle after : AgentConnector}
    (step : HistoryStep runtime nowEpoch before middle)
    (unchanged : after.config.get? historyKey = middle.config.get? historyKey) : HistoryStep runtime nowEpoch before after := by
  cases step with
  | same earlier => exact .same (unchanged.trans earlier)
  | cleaned stored => exact .cleaned (unchanged.trans stored)
  | added nonce fresh stored => exact .added nonce fresh (unchanged.trans stored)

theorem AcceptedAt.onward {nowEpoch : Int} {message : SignedMessage} {before middle after : AgentConnector}
    (accepted : AcceptedAt runtime nowEpoch message before middle)
    (unchanged : after.config.get? historyKey = middle.config.get? historyKey) :
    AcceptedAt runtime nowEpoch message before after :=
  ⟨accepted.window, accepted.fresh, unchanged.trans accepted.stored⟩

/-- An authentication as the guard sees it; only an HMAC connector accepts a signed message. -/
structure Authenticated (runtime : ConnectorRuntime) (nowEpoch : Int) (request : WebhookRequest)
    (before : AgentConnector) (outcome : Except Raised Unit) (after : AgentConnector) : Prop where
  step : HistoryStep runtime nowEpoch before after
  accepted : before.authType = some .hmac → outcome = .ok () →
    AcceptedAt runtime nowEpoch (request.message runtime) before after

theorem Authenticated.onward {nowEpoch : Int} {request : WebhookRequest} {before middle after : AgentConnector}
    {outcome : Except Raised Unit} (authenticated : Authenticated runtime nowEpoch request before outcome middle)
    (unchanged : after.config.get? historyKey = middle.config.get? historyKey) :
    Authenticated runtime nowEpoch request before outcome after :=
  ⟨authenticated.step.onward unchanged, fun hmac passed => (authenticated.accepted hmac passed).onward unchanged⟩

theorem authenticated_error {nowEpoch : Int} {request : WebhookRequest} {before after : AgentConnector} (error : Raised)
    (step : HistoryStep runtime nowEpoch before after) : Authenticated runtime nowEpoch request before (.error error) after :=
  ⟨step, fun _ impossible => by cases impossible⟩

/-- A refusal that keeps the configuration. -/
theorem refusal_authenticated {nowEpoch : Int} {request : WebhookRequest} (reason detail : String) (state : ConnectorCase) :
    (refuseAuth runtime reason detail : CaseProcedure Unit).Ends state fun outcome after =>
      Authenticated runtime nowEpoch request state.connector outcome after.connector := by
  unfold refuseAuth
  apply Ends.bind ((same_setup_failure runtime reason).ends state)
  · intro _ after kept
    exact authenticated_error _ (.same (same_history kept.1))
  · intro error after kept
    exact authenticated_error error (.same (same_history kept.1))

theorem credentials_authenticated (request : WebhookRequest) (storedHash : String) (state : ConnectorCase) :
    (checkCredentials runtime state.connector.authType storedHash request).Ends state fun outcome after =>
      Authenticated runtime (epochSeconds (runtime.clock state.ticks)) request state.connector outcome after.connector := by
  have bearer (other : state.connector.authType ≠ some .hmac) :
      (authenticateBearer runtime storedHash request).Ends state fun outcome after =>
        Authenticated runtime (epochSeconds (runtime.clock state.ticks)) request state.connector outcome after.connector := by
    have kept := (@same_setup_bearer [] runtime storedHash request).ends state
    apply Ends.mono kept
    intro outcome after same
    exact ⟨.same (same_history same.1), fun hmac => absurd hmac other⟩
  unfold checkCredentials
  split
  · rename_i kind
    exact bearer (by rw [kind]; decide)
  · rename_i kind
    exact bearer (by rw [kind]; decide)
  · rw [ends_rescue]
    apply Ends.mono (hmac_guarded runtime storedHash request state)
    intro outcome after guarded
    cases outcome with
    | ok passed => exact ⟨guarded.step, fun _ _ => guarded.accepted rfl⟩
    | error error =>
      apply Ends.bind ((same_setup_failure runtime error.message).ends after)
      · intro _ later kept
        exact authenticated_error error (guarded.step.onward (same_history kept.1))
      · intro other later kept
        exact authenticated_error other (guarded.step.onward (same_history kept.1))
  · exact authenticated_error _ (.same rfl)

theorem connector_authenticated (request : WebhookRequest) (state : ConnectorCase) :
    (authenticateConnector runtime request).Ends state fun outcome after =>
      Authenticated runtime (epochSeconds (runtime.clock state.ticks)) request state.connector outcome after.connector := by
  unfold authenticateConnector
  rw [ends_bind, ends_currentConnector, continue_ok, ends_ite]
  constructor
  · intro disabled
    exact refusal_authenticated _ _ state
  intro enabled
  rw [ends_ite]
  constructor
  · intro none
    exact authenticated_error _ (.same rfl)
  intro some
  rw [ends_ite]
  constructor
  · intro missing
    exact refusal_authenticated _ _ state
  intro configured
  apply Ends.bind (credentials_authenticated request _ state)
  · intro _ after authenticated
    apply Ends.mono ((same_setup_success runtime).ends after)
    intro outcome later kept
    have onward := authenticated.onward (same_history kept.1)
    exact ⟨onward.step, fun hmac _ => onward.accepted hmac rfl⟩
  · intro error after authenticated
    exact authenticated_error error authenticated.step

end Guard

section Runs

/-- The history that a request leaves behind is the one that its authentication leaves behind. -/
theorem admit_history (request : WebhookRequest) (state : ConnectorCase) :
    ((admitRequest runtime request).run state).2.connector.config.get? historyKey =
      ((authenticateConnector runtime request).run state).2.connector.config.get? historyKey := by
  unfold admitRequest
  rw [run_bind]
  rcases (authenticateConnector runtime request).run state with ⟨error | passed, after⟩
  · rfl
  · have limited := (@same_setup_rateLimit ["rate_limit_window_started_at", "rate_limit_request_count"] runtime
      (by decide) (by decide)) after
    exact limited.1.config historyKey (by decide)

/-- Where a connector's nonce history comes from after a webhook. -/
theorem webhook_history (callId : String) (request : WebhookRequest) (store : ConnectorStore) :
    (handleConnectorWebhook runtime callId request).Ends store fun _ after =>
      ∀ connectorId later, after.connectors.get? connectorId = some later →
        ∃ earlier, store.connectors.get? connectorId = some earlier ∧
          later.config.get? historyKey =
            (if connectorId = callId then ((authenticateConnector runtime request).run ⟨store.ticks, earlier⟩).2.connector
              else earlier).config.get? historyKey := by
  have admitted := onConnector_ends callId (admitRequest runtime request) store
  unfold handleConnectorWebhook
  apply Ends.bind admitted
  · intro _ middle known
    apply Ends.mono ((@every_payload [] runtime callId request).ends middle)
    intro outcome after every connectorId later stored
    obtain ⟨between, found, same⟩ := every.each connectorId later stored
    obtain ⟨earlier, before, result⟩ := known connectorId between found
    refine ⟨earlier, before, ?_⟩
    rw [same_history same, result]
    split
    · exact admit_history runtime request _
    · rfl
  · intro error after known connectorId later stored
    obtain ⟨earlier, before, result⟩ := known connectorId later stored
    refine ⟨earlier, before, ?_⟩
    rw [result]
    split
    · exact admit_history runtime request _
    · rfl

abbrev WebhookCall := String × WebhookRequest

/-- The signed message that the HMAC check of a connector accepts at a call, if it accepts one. -/
def acceptedMessage (connectorId : String) (store : ConnectorStore) (call : WebhookCall) : Option SignedMessage :=
  match store.connectors.get? connectorId with
  | some connector =>
      if call.1 = connectorId ∧ connector.authType = some .hmac ∧
          ((authenticateConnector runtime call.2).run ⟨store.ticks, connector⟩).1.isOk = true then
        some (call.2.message runtime)
      else none
  | none => none

def afterCall (store : ConnectorStore) (call : WebhookCall) : ConnectorStore :=
  (connectorMachine runtime).next store (.webhook call.1 call.2)

/-- The messages that are accepted over a sequence of webhooks, in their order. -/
def acceptedMessages (connectorId : String) : ConnectorStore → List WebhookCall → List SignedMessage
  | _, [] => []
  | store, call :: rest =>
      (acceptedMessage runtime connectorId store call).toList ++ acceptedMessages connectorId (afterCall runtime store call) rest

theorem acceptedMessages_cons (connectorId : String) (store : ConnectorStore) (call : WebhookCall) (rest : List WebhookCall) :
    acceptedMessages runtime connectorId store (call :: rest) =
      (acceptedMessage runtime connectorId store call).toList ++
        acceptedMessages runtime connectorId (afterCall runtime store call) rest := rfl

/-- The time that the replay guard reads when a webhook arrives. -/
def arrivalEpoch (store : ConnectorStore) : Int := epochSeconds (runtime.clock store.ticks)

/-- The connector tracks no more young nonces than its history may hold. -/
def HistoryFits (store : ConnectorStore) (call : WebhookCall) : Prop :=
  ∀ connector, store.connectors.get? call.1 = some connector →
    (trackedNonces runtime connector.config (arrivalEpoch runtime store)).rows.length ≤ hmacMaxTrackedNonces

/-- Every webhook of a sequence meets such a connector. -/
def HistoriesFit : ConnectorStore → List WebhookCall → Prop
  | _, [] => True
  | store, call :: rest => HistoryFits runtime store call ∧ HistoriesFit (afterCall runtime store call) rest

variable {runtime}

theorem epochSeconds_mono {first second : Instant} (later : first ≤ second) : epochSeconds first ≤ epochSeconds second :=
  Int.ofNat_le.mpr (Nat.div_le_div_right later)

theorem afterCall_every (store : ConnectorStore) (call : WebhookCall) :
    EveryConnector (SameSetup webhookKeys) store (afterCall runtime store call) := by
  have dropped : (ConnectorRequest.run runtime (.webhook call.1 call.2)).Ends store fun _ after =>
      EveryConnector (SameSetup webhookKeys) store after :=
    Ends.dropped () ((every_webhook runtime call.1 call.2).ends store)
  exact dropped

theorem afterCall_history (store : ConnectorStore) (call : WebhookCall) {connectorId : String} {later : AgentConnector}
    (stored : (afterCall runtime store call).connectors.get? connectorId = some later) :
    ∃ earlier, store.connectors.get? connectorId = some earlier ∧
      later.config.get? historyKey =
        (if connectorId = call.1 then ((authenticateConnector runtime call.2).run ⟨store.ticks, earlier⟩).2.connector
          else earlier).config.get? historyKey := by
  have dropped : (ConnectorRequest.run runtime (.webhook call.1 call.2)).Ends store fun _ after =>
      ∀ connectorId later, after.connectors.get? connectorId = some later →
        ∃ earlier, store.connectors.get? connectorId = some earlier ∧
          later.config.get? historyKey =
            (if connectorId = call.1 then ((authenticateConnector runtime call.2).run ⟨store.ticks, earlier⟩).2.connector
              else earlier).config.get? historyKey :=
    Ends.dropped () (webhook_history runtime call.1 call.2 store)
  exact dropped connectorId later stored

/-- A message that was accepted at a time and cannot be accepted again: its nonce is
still tracked, or its timestamp has left the window. -/
structure Spent (runtime : ConnectorRuntime) (connectorId : String) (message : SignedMessage) (seen : Int)
    (store : ConnectorStore) : Prop where
  window : |seen - message.timestamp| ≤ hmacTimestampToleranceSeconds
  tracked : (∀ connector, store.connectors.get? connectorId = some connector → Tracks connector.config message.nonce seen) ∨
    seen + hmacNonceTtlSeconds < arrivalEpoch runtime store

theorem arrivalEpoch_after (monotone : Monotone runtime.clock) (store : ConnectorStore) (call : WebhookCall) :
    arrivalEpoch runtime store ≤ arrivalEpoch runtime (afterCall runtime store call) :=
  epochSeconds_mono (monotone (afterCall_every store call).ticks)

/-- A step of the guard keeps a young nonce where the bound does not apply. -/
theorem HistoryStep.tracks {nowEpoch seen : Int} {nonce : String} {before after : AgentConnector}
    (step : HistoryStep runtime nowEpoch before after) (tracks : Tracks before.config nonce seen)
    (young : nowEpoch - seen ≤ hmacNonceTtlSeconds)
    (fits : (trackedNonces runtime before.config nowEpoch).rows.length ≤ hmacMaxTrackedNonces) :
    Tracks after.config nonce seen := by
  have kept := tracks.cleaned young fits
  cases step with
  | same unchanged =>
    obtain ⟨history, stored, found⟩ := tracks
    exact ⟨history, unchanged.trans stored, found⟩
  | cleaned stored => exact ⟨_, stored, kept⟩
  | added other fresh stored =>
    have apart : nonce ≠ other := by
      rintro rfl
      rw [fresh] at kept
      cases kept
    exact ⟨_, stored, (Table.get?_set_other _ _ apart).trans kept⟩

theorem Spent.next (monotone : Monotone runtime.clock) {connectorId : String} {message : SignedMessage} {seen : Int}
    {store : ConnectorStore} (spent : Spent runtime connectorId message seen store) (call : WebhookCall)
    (fits : HistoryFits runtime store call) : Spent runtime connectorId message seen (afterCall runtime store call) := by
  have onward := arrivalEpoch_after monotone store call
  constructor
  · exact spent.window
  · rcases spent.tracked with tracked | past
    · by_cases young : arrivalEpoch runtime store - seen ≤ hmacNonceTtlSeconds
      · left
        intro later stored
        obtain ⟨earlier, before, result⟩ := afterCall_history store call stored
        have tracks := tracked earlier before
        by_cases here : connectorId = call.1
        · rw [if_pos here] at result
          have guarded := @connector_authenticated runtime call.2 ⟨store.ticks, earlier⟩
          have step := guarded.step.onward result
          exact step.tracks tracks young (fits earlier (here ▸ before))
        · rw [if_neg here] at result
          obtain ⟨history, kept, found⟩ := tracks
          exact ⟨history, result.trans kept, found⟩
      · right
        omega
    · right
      omega

theorem acceptedMessage_eq_some {connectorId : String} {store : ConnectorStore} {call : WebhookCall}
    {message : SignedMessage} (accepted : acceptedMessage runtime connectorId store call = some message) :
    ∃ connector, store.connectors.get? connectorId = some connector ∧ call.1 = connectorId ∧
      AcceptedAt runtime (arrivalEpoch runtime store) message connector
        ((authenticateConnector runtime call.2).run ⟨store.ticks, connector⟩).2.connector := by
  unfold acceptedMessage at accepted
  split at accepted
  · rename_i connector stored
    split at accepted
    · rename_i passes
      cases accepted
      obtain ⟨here, hmac, passed⟩ := passes
      have guarded := @connector_authenticated runtime call.2 ⟨store.ticks, connector⟩
      have ok : ((authenticateConnector runtime call.2).run ⟨store.ticks, connector⟩).1 = .ok () := by
        rcases outcome : ((authenticateConnector runtime call.2).run ⟨store.ticks, connector⟩).1 with error | done
        · rw [outcome] at passed
          cases passed
        · rfl
      exact ⟨connector, stored, here, guarded.accepted hmac ok⟩
    · cases accepted
  · cases accepted

/-- An accepted message is spent from then on. -/
theorem accepted_spent {connectorId : String} {store : ConnectorStore} {call : WebhookCall} {message : SignedMessage}
    (accepted : acceptedMessage runtime connectorId store call = some message) :
    Spent runtime connectorId message (arrivalEpoch runtime store) (afterCall runtime store call) := by
  obtain ⟨connector, stored, here, arrived⟩ := acceptedMessage_eq_some accepted
  constructor
  · exact arrived.window
  · left
    intro later found
    obtain ⟨earlier, before, result⟩ := afterCall_history store call found
    rw [stored] at before
    cases before
    rw [if_pos here.symm] at result
    exact (arrived.onward result).tracks

/-- A spent message is not accepted. -/
theorem Spent.not_accepted {connectorId : String} {message : SignedMessage} {seen : Int} {store : ConnectorStore}
    (spent : Spent runtime connectorId message seen store) (call : WebhookCall) (fits : HistoryFits runtime store call) :
    acceptedMessage runtime connectorId store call ≠ some message := by
  intro accepted
  obtain ⟨connector, stored, here, arrived⟩ := acceptedMessage_eq_some accepted
  have first := abs_le.mp spent.window
  have second := abs_le.mp arrived.window
  have young : arrivalEpoch runtime store - seen ≤ hmacNonceTtlSeconds := by
    simp only [hmacTimestampToleranceSeconds, hmacNonceTtlSeconds] at first second ⊢
    omega
  rcases spent.tracked with tracked | past
  · have kept := (tracked connector stored).cleaned young (fits connector (here ▸ stored))
    have fresh := arrived.fresh
    rw [kept] at fresh
    cases fresh
  · omega

theorem Spent.never_again (monotone : Monotone runtime.clock) {connectorId : String} {message : SignedMessage} {seen : Int}
    {store : ConnectorStore} (spent : Spent runtime connectorId message seen store) {calls : List WebhookCall}
    (fits : HistoriesFit runtime store calls) : message ∉ acceptedMessages runtime connectorId store calls := by
  induction calls generalizing store with
  | nil => exact List.not_mem_nil
  | cons call rest ih =>
    intro member
    rw [acceptedMessages_cons] at member
    rcases List.mem_append.mp member with now | later
    · exact spent.not_accepted call fits.1 (Option.mem_toList.mp now)
    · exact ih (spent.next monotone call fits.1) fits.2 later

/-- Where the histories stay within their bound, a signed message is accepted at most once. -/
theorem signed_message_accepted_once (monotone : Monotone runtime.clock) (connectorId : String) (store : ConnectorStore)
    (calls : List WebhookCall) (fits : HistoriesFit runtime store calls) :
    (acceptedMessages runtime connectorId store calls).Nodup := by
  induction calls generalizing store with
  | nil => exact List.nodup_nil
  | cons call rest ih =>
    have others := ih (afterCall runtime store call) fits.2
    rw [acceptedMessages_cons]
    cases accepted : acceptedMessage runtime connectorId store call with
    | none => exact others
    | some message =>
      have unspent := (accepted_spent accepted).never_again monotone fits.2
      exact List.nodup_cons.mpr ⟨unspent, others⟩

end Runs

section Sample

/-- A runtime in which all webhooks arrive in one second. -/
def stillRuntime : ConnectorRuntime :=
  { ConnectorRuntime.plain [] with clock := fun _ => 0 }

def signedConnector : AgentConnector where
  id := "connector_1"
  name := some "bridge"
  connectorType := some .webhook
  providerLabel := some .custom
  endpointUrl := none
  callbackUrl := none
  authType := some .hmac
  status := .enabled
  healthStatus := .unknown
  allowedProjectIds := some []
  allowedRepositories := some []
  allowedActions := some [.createAgentTask]
  rateLimitPerMinute := some 60
  secretRef := some "connector_secret_1"
  lastUsedAt := none
  lastHealthCheckAt := none
  failedAuthCount := 0
  lastError := none
  createdByUserId := none
  config := Table.empty.set "secret_hash" (.text "hash")
  createdAt := 0
  updatedAt := 0

def signedStore : ConnectorStore := ⟨0, [], Table.empty.set "connector_1" signedConnector, .empty, .empty⟩

/-- An empty body that is signed for a nonce. -/
def signedCall (nonce : String) : WebhookCall :=
  ("connector_1",
    { body := []
      authorization := none
      signature := some (expectedHmacV1Signature stillRuntime "hash" "0" nonce [])
      signatureVersion := some "v1"
      timestamp := some "0"
      nonce := some nonce })

def nonceText (index : Nat) : String := String.ofList [Char.ofNat (65 + index / 16), Char.ofNat (65 + index % 16)]

/-- One nonce more than a history may hold. -/
def manyNonces : List String := (List.range 201).map nonceText

theorem ofNat_toNat {code : Nat} (small : code < 1000) : (Char.ofNat code).toNat = code := by
  unfold Char.ofNat
  have valid : code.isValidChar := by
    unfold Nat.isValidChar
    omega
  rw [dif_pos valid]
  rfl

theorem nonceText_injective {first second : Nat} (left : first < 1000) (right : second < 1000)
    (same : nonceText first = nonceText second) : first = second := by
  have letters := String.ofList_inj.mp same
  obtain ⟨high, low⟩ : Char.ofNat (65 + first / 16) = Char.ofNat (65 + second / 16) ∧
      Char.ofNat (65 + first % 16) = Char.ofNat (65 + second % 16) := by simpa using letters
  have quotient := congrArg Char.toNat high
  have remainder := congrArg Char.toNat low
  rw [ofNat_toNat (by omega), ofNat_toNat (by omega)] at quotient remainder
  omega

theorem manyNonces_distinct : manyNonces.Nodup := by
  apply List.Nodup.map_on
  · intro first left second right same
    exact nonceText_injective (Nat.lt_of_lt_of_le (List.mem_range.mp left) (by decide))
      (Nat.lt_of_lt_of_le (List.mem_range.mp right) (by decide)) same
  · exact List.nodup_range

/-- A signature of the sample begins and ends with other characters than white space. -/
theorem signature_shape (nonce : String) : expectedHmacV1Signature stillRuntime "hash" "0" nonce [] =
    String.ofList ('h' :: ("ash|v1.0.".toList ++ nonce.toList ++ ['.']) ++ ['7']) := by
  apply String.toList_inj.mp
  rw [String.toList_ofList]
  have body : stillRuntime.sha256Body [] = "7" := by decide +kernel
  unfold expectedHmacV1Signature hmacV1SigningPayload
  rw [body]
  change ("hash" ++ "|" ++ ("v1." ++ "0" ++ "." ++ nonce ++ "." ++ "7")).toList = _
  simp [String.toList_append]

theorem extract_expected (nonce : String) :
    extractHmacSignature (expectedHmacV1Signature stillRuntime "hash" "0" nonce []) =
      expectedHmacV1Signature stillRuntime "hash" "0" nonce [] := by
  unfold extractHmacSignature
  rw [signature_shape, Text.strip_of_ends _ (by decide) (by decide)]
  apply if_neg
  unfold Text.startsWith
  rw [String.toList_ofList]
  simp

theorem signature_present (nonce : String) :
    Text.present (some (expectedHmacV1Signature stillRuntime "hash" "0" nonce [])) = true := by
  rw [signature_shape]
  unfold Text.present
  rw [bne_iff_ne]
  intro empty
  have letters := congrArg String.toList empty
  rw [String.toList_ofList] at letters
  cases letters

theorem youngNonces_rows {runtime : ConnectorRuntime} {nowEpoch : Int} {rows : List (String × Int)}
    {cleaned : Table String Int} (distinct : (rows.map Prod.fst).Nodup)
    (apart : ∀ row ∈ rows, row.1 ∉ cleaned.keys) (young : ∀ row ∈ rows, nowEpoch - row.2 ≤ hmacNonceTtlSeconds) :
    (youngNonces runtime nowEpoch (rows.map fun row => (row.1, .number row.2)) cleaned).rows = cleaned.rows ++ rows := by
  induction rows generalizing cleaned with
  | nil => exact (List.append_nil _).symm
  | cons row rest ih =>
    obtain ⟨first, others⟩ := List.nodup_cons.mp distinct
    have fresh : row.1 ∉ cleaned.keys := apart row List.mem_cons_self
    have written : (cleaned.set row.1 row.2).rows = cleaned.rows ++ [row] := Table.write_fresh row.2 fresh
    rw [List.map_cons]
    unfold youngNonces
    dsimp only [intOf]
    rw [if_pos (young row List.mem_cons_self), ih others, written, List.append_assoc, List.singleton_append]
    · intro other member
      unfold Table.keys
      rw [written, List.map_append, List.mem_append, not_or]
      constructor
      · exact apart other (List.mem_cons_of_mem _ member)
      · intro same
        apply first
        rw [← List.mem_singleton.mp same]
        exact List.mem_map_of_mem member
    · exact fun other member => young other (List.mem_cons_of_mem _ member)

/-- A stored history whose nonces are all young is tracked as it is. -/
theorem trackedNonces_document {runtime : ConnectorRuntime} {config : Config} {nowEpoch : Int} {history : Table String Int}
    (stored : config.get? historyKey = some (historyDocument history))
    (young : ∀ row ∈ history.rows, nowEpoch - row.2 ≤ hmacNonceTtlSeconds) :
    (trackedNonces runtime config nowEpoch).rows = history.rows := by
  unfold trackedNonces Config.value
  rw [show config.get? "hmac_nonce_history" = some (historyDocument history) from stored]
  exact youngNonces_rows history.distinct (fun _ _ => List.not_mem_nil) young

/-- The sample connector after some webhooks: it tracks these nonces, all since the same second. -/
structure TracksExactly (store : ConnectorStore) (nonces : List String) : Prop where
  stored : ∃ connector, store.connectors.get? "connector_1" = some connector ∧
    SameSetup webhookKeys signedConnector connector ∧
    (trackedNonces stillRuntime connector.config 0).rows = nonces.map fun nonce => (nonce, 0)

theorem arrivalEpoch_still (store : ConnectorStore) : arrivalEpoch stillRuntime store = 0 := by
  have still : stillRuntime.clock store.ticks = 0 := rfl
  unfold arrivalEpoch epochSeconds
  rw [still]
  simp

theorem signedStore_tracks : TracksExactly signedStore [] :=
  ⟨signedConnector, rfl, .refl signedConnector, rfl⟩

/-- A tracked history within its bound is not cut. -/
theorem clean_within {runtime : ConnectorRuntime} {config : Config} {nowEpoch : Int}
    (within : (trackedNonces runtime config nowEpoch).rows.length ≤ hmacMaxTrackedNonces) :
    cleanHmacNonceHistory runtime config nowEpoch = trackedNonces runtime config nowEpoch := by
  unfold cleanHmacNonceHistory
  exact if_neg (Nat.not_lt.mpr within)

theorem signed_credentials {connector : AgentConnector} {nonce : String} (same : SameSetup webhookKeys signedConnector connector)
    (acceptable : acceptableNonce (some nonce) = true)
    (fresh : (cleanHmacNonceHistory stillRuntime connector.config 0).get? nonce = none) :
    ValidCredentials stillRuntime connector 0 (signedCall nonce).2 := by
  have hashed : storedHash stillRuntime connector = "hash" := by
    unfold storedHash Config.value
    rw [same.config "secret_hash" (by decide)]
    rfl
  unfold ValidCredentials
  rw [same.authType]
  exact
    { version := rfl
      signed := signature_present nonce
      nonce := acceptable
      timed := rfl
      timestamp := ⟨0, rfl, by decide, by rw [hashed]; exact extract_expected nonce⟩
      fresh := fresh }

/-- A signed call with a new nonce is accepted, and the nonce is tracked behind the history that was left. -/
theorem signed_call_accepted {store : ConnectorStore} {nonces left : List String} {nonce : String}
    (tracks : TracksExactly store nonces) (acceptable : acceptableNonce (some nonce) = true)
    (cleaned : ∀ connector, store.connectors.get? "connector_1" = some connector →
      (cleanHmacNonceHistory stillRuntime connector.config 0).rows = left.map fun nonce => (nonce, 0))
    (fresh : nonce ∉ left) :
    acceptedMessage stillRuntime "connector_1" store (signedCall nonce) = some ⟨nonce, 0, []⟩ ∧
      TracksExactly (afterCall stillRuntime store (signedCall nonce)) (left ++ [nonce]) := by
  -- the call is signed, and its nonce is not among those left, so it is accepted
  obtain ⟨connector, stored, same, _⟩ := tracks.stored
  have kept := cleaned connector stored
  have keys : (cleanHmacNonceHistory stillRuntime connector.config 0).keys = left := by
    unfold Table.keys
    rw [kept, List.map_map]
    exact List.map_id left
  have unknown : nonce ∉ (cleanHmacNonceHistory stillRuntime connector.config 0).keys := by rwa [keys]
  have credentials := signed_credentials same acceptable (Table.get?_of_fresh unknown)
  have configured : secretConfigured connector = true := by
    unfold secretConfigured Config.value
    rw [same.secretRef, same.config "secret_hash" (by decide)]
    decide
  have hmac : connector.authType = some .hmac := same.authType
  have passes := @authenticate_passes stillRuntime connector (signedCall nonce).2 store.ticks same.status configured
    (.inr (.inr hmac)) credentials
  have accepted : acceptedMessage stillRuntime "connector_1" store (signedCall nonce) = some ⟨nonce, 0, []⟩ := by
    unfold acceptedMessage
    rw [stored]
    apply if_pos
    refine ⟨rfl, hmac, ?_⟩
    rw [passes.1]
    rfl
  refine ⟨accepted, ?_⟩
  have every := @afterCall_every stillRuntime store (signedCall nonce)
  have present : (afterCall stillRuntime store (signedCall nonce)).connectors.get? "connector_1" ≠ none := by
    apply every.kept
    rw [stored]
    exact Option.some_ne_none _
  -- the connector of the store after the call, with the nonces that it tracks
  obtain ⟨later, found⟩ := Option.ne_none_iff_exists'.mp present
  obtain ⟨earlier, before, onward⟩ := every.each _ later found
  obtain ⟨held, heldBefore, _, arrived⟩ := acceptedMessage_eq_some accepted
  obtain ⟨origin, originBefore, result⟩ := afterCall_history store (signedCall nonce) found
  rw [stored] at before heldBefore originBefore
  cases before
  cases heldBefore
  cases originBefore
  have here : "connector_1" = (signedCall nonce).1 := rfl
  rw [if_pos here] at result
  have history := (arrived.onward result).stored
  -- the nonce stands behind those that were left
  have rows : ((cleanHmacNonceHistory stillRuntime connector.config 0).set nonce 0).rows =
      (left ++ [nonce]).map fun nonce => (nonce, 0) := by
    rw [List.map_append, ← kept]
    exact Table.write_fresh 0 unknown
  refine ⟨later, found, same.trans onward, ?_⟩
  rw [arrivalEpoch_still store] at history
  have zeros : later.config.get? historyKey =
      some (historyDocument ((cleanHmacNonceHistory stillRuntime connector.config 0).set nonce 0)) := history
  -- the clock stands still, so no nonce grows old
  have young : ∀ row ∈ ((cleanHmacNonceHistory stillRuntime connector.config 0).set nonce 0).rows,
      (0 : Int) - row.2 ≤ hmacNonceTtlSeconds := by
    rw [rows]
    intro row member
    obtain ⟨name, _, rfl⟩ := List.mem_map.mp member
    exact (by decide : (0 : Int) - 0 ≤ hmacNonceTtlSeconds)
  exact (trackedNonces_document zeros young).trans rows

theorem TracksExactly.fits {store : ConnectorStore} {nonces : List String} (tracks : TracksExactly store nonces)
    (within : nonces.length ≤ hmacMaxTrackedNonces) (nonce : String) : HistoryFits stillRuntime store (signedCall nonce) := by
  intro connector found
  obtain ⟨held, stored, _, rows⟩ := tracks.stored
  rw [show (signedCall nonce).1 = "connector_1" from rfl, stored] at found
  cases found
  rw [arrivalEpoch_still store, rows, List.length_map]
  exact within

/-- A message and its replay: the message is accepted, and only once. -/
theorem replayed_once :
    ⟨"AA", 0, []⟩ ∈ acceptedMessages stillRuntime "connector_1" signedStore [signedCall "AA", signedCall "AA"] ∧
      (acceptedMessages stillRuntime "connector_1" signedStore [signedCall "AA", signedCall "AA"]).Nodup := by
  have cleaned : ∀ connector, signedStore.connectors.get? "connector_1" = some connector →
      (cleanHmacNonceHistory stillRuntime connector.config 0).rows = ([] : List String).map fun nonce => (nonce, 0) := by
    intro connector found
    cases found
    rfl
  have acceptable : acceptableNonce (some "AA") = true := by decide
  obtain ⟨accepted, tracks⟩ := signed_call_accepted signedStore_tracks acceptable cleaned List.not_mem_nil
  constructor
  · rw [acceptedMessages_cons, accepted]
    exact List.mem_append_left _ (Option.mem_toList.mpr rfl)
  · exact signed_message_accepted_once (fun _ _ _ => Nat.le_refl _) "connector_1" signedStore _
      ⟨signedStore_tracks.fits (Nat.zero_le _) "AA", tracks.fits (by decide) "AA", trivial⟩

/-- As long as the history is within its bound, new nonces are accepted one after another. -/
theorem signed_calls_accepted {store : ConnectorStore} {nonces news : List String} (tracks : TracksExactly store nonces)
    (acceptable : ∀ nonce ∈ news, acceptableNonce (some nonce) = true) (distinct : (nonces ++ news).Nodup)
    (within : (nonces ++ news).length ≤ hmacMaxTrackedNonces + 1) (rest : List WebhookCall) :
    ∃ after, TracksExactly after (nonces ++ news) ∧
      acceptedMessages stillRuntime "connector_1" store (news.map signedCall ++ rest) =
        (news.map fun nonce => ⟨nonce, 0, []⟩) ++ acceptedMessages stillRuntime "connector_1" after rest := by
  induction news generalizing store nonces with
  | nil => exact ⟨store, by rwa [List.append_nil], rfl⟩
  | cons nonce more ih =>
    have cleaned : ∀ connector, store.connectors.get? "connector_1" = some connector →
        (cleanHmacNonceHistory stillRuntime connector.config 0).rows = nonces.map fun nonce => (nonce, 0) := by
      intro connector found
      obtain ⟨held, stored, _, rows⟩ := tracks.stored
      rw [found] at stored
      cases stored
      rw [clean_within, rows]
      rw [rows, List.length_map]
      simp only [List.length_append, List.length_cons] at within
      omega
    have fresh : nonce ∉ nonces := by
      intro member
      exact List.disjoint_of_nodup_append distinct member List.mem_cons_self
    obtain ⟨accepted, next⟩ := signed_call_accepted tracks (acceptable nonce List.mem_cons_self) cleaned fresh
    have regroup : nonces ++ [nonce] ++ more = nonces ++ nonce :: more := by simp
    obtain ⟨after, ends, messages⟩ := ih next (fun other member => acceptable other (List.mem_cons_of_mem _ member))
      (regroup ▸ distinct) (regroup ▸ within)
    refine ⟨after, regroup ▸ ends, ?_⟩
    rw [List.map_cons, List.cons_append, acceptedMessages_cons, accepted, messages]
    rfl

/-- The history of one nonce more than it may hold loses its first one. -/
theorem latestRows_overflow {nonce : String} {others : List String} {table : Table String Int}
    (rows : table.rows = (nonce :: others).map fun nonce => (nonce, 0)) (full : others.length = hmacMaxTrackedNonces) :
    (latestRows hmacMaxTrackedNonces table).rows = others.map fun nonce => (nonce, 0) := by
  have sorted : table.rows.mergeSort (fun row other => decide (row.2 ≤ other.2)) = table.rows := by
    apply List.mergeSort_of_pairwise
    rw [rows]
    apply List.pairwise_of_forall_mem_list
    intro first left second right
    obtain ⟨_, _, rfl⟩ := List.mem_map.mp left
    obtain ⟨_, _, rfl⟩ := List.mem_map.mp right
    rfl
  unfold latestRows
  dsimp only
  rw [sorted, rows, List.length_map, List.length_cons, full]
  rfl

theorem manyNonces_acceptable : ∀ nonce ∈ manyNonces, acceptableNonce (some nonce) = true := by
  intro nonce member
  obtain ⟨index, _, rfl⟩ := List.mem_map.mp member
  unfold acceptableNonce nonceText
  simp

theorem manyNonces_within : ([] ++ manyNonces).length ≤ hmacMaxTrackedNonces + 1 := by
  unfold manyNonces hmacMaxTrackedNonces
  rw [List.nil_append, List.length_map, List.length_range]

/-- The calls with all the nonces, and the first of them again. -/
def replayedCalls : List WebhookCall := manyNonces.map signedCall ++ [signedCall (nonceText 0)]

/-- A signed message is accepted a second time after as many others as a history may hold. -/
theorem replay_accepted : ¬ ∀ (runtime : ConnectorRuntime), Monotone runtime.clock → ∀ connectorId store calls,
    (acceptedMessages runtime connectorId store calls).Nodup := by
  intro always
  have once := always stillRuntime (fun _ _ _ => Nat.le_refl _) "connector_1" signedStore replayedCalls
  have split : manyNonces = nonceText 0 :: (List.range' 1 200).map nonceText := by
    unfold manyNonces
    rw [List.range_eq_range']
    rfl
  have unrepeated : (nonceText 0 :: (List.range' 1 200).map nonceText).Nodup := split ▸ manyNonces_distinct
  obtain ⟨after, tracks, messages⟩ := signed_calls_accepted signedStore_tracks manyNonces_acceptable
    (by rw [List.nil_append]; exact manyNonces_distinct) manyNonces_within [signedCall (nonceText 0)]
  rw [List.nil_append, split] at tracks
  have cleaned : ∀ connector, after.connectors.get? "connector_1" = some connector →
      (cleanHmacNonceHistory stillRuntime connector.config 0).rows =
        ((List.range' 1 200).map nonceText).map fun nonce => (nonce, 0) := by
    intro connector found
    obtain ⟨held, stored, _, rows⟩ := tracks.stored
    rw [found] at stored
    cases stored
    have count : (trackedNonces stillRuntime connector.config 0).rows.length = 201 := by
      rw [rows, List.length_map, List.length_cons, List.length_map, List.length_range']
    unfold cleanHmacNonceHistory
    rw [if_pos (by rw [count]; decide)]
    exact latestRows_overflow rows (by rw [List.length_map, List.length_range']; rfl)
  obtain ⟨accepted, _⟩ := signed_call_accepted tracks (by decide) cleaned (List.nodup_cons.mp unrepeated).1
  have again : acceptedMessages stillRuntime "connector_1" after [signedCall (nonceText 0)] = [⟨nonceText 0, 0, []⟩] := by
    rw [acceptedMessages_cons, accepted]
    rfl
  unfold replayedCalls at once
  rw [messages, again, split, List.map_cons, List.cons_append, List.nodup_cons] at once
  apply once.1
  exact List.mem_append_right _ List.mem_cons_self

end Sample

end ControlTower.Connectors
