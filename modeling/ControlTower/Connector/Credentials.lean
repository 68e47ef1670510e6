import ControlTower.Connector.Setup

/-! Valid credentials for a connector, and that authentication lets them through. -/

set_option autoImplicit false

namespace ControlTower.Connectors

open Foundation
open Foundation.Procedure

variable (runtime : ConnectorRuntime)

/-- The digest that a connector holds of its secret. -/
def storedHash (connector : AgentConnector) : String := strOf runtime (connector.config.value "secret_hash")

/-- A request with the connector's secret as its bearer token. -/
structure BearsSecret (connector : AgentConnector) (request : WebhookRequest) : Prop where
  bearer : Text.startsWith (request.authorization.getD "") "Bearer " = true
  secret : storedHash runtime connector =
    runtime.hashSecret (Text.strip (removePrefix "Bearer " (request.authorization.getD "")))

/-- A request that is signed with the connector's secret at a time, with a new nonce. -/
structure SignsRequest (connector : AgentConnector) (nowEpoch : Int) (request : WebhookRequest) : Prop where
  version : request.signatureVersion = some "v1"
  signed : Text.present request.signature = true
  nonce : acceptableNonce request.nonce = true
  timed : Text.present request.timestamp = true
  timestamp : ∃ timestampEpoch, request.timestamp.bind runtime.intOfText = some timestampEpoch ∧
    |nowEpoch - timestampEpoch| ≤ hmacTimestampToleranceSeconds ∧
    extractHmacSignature (request.signature.getD "") =
      expectedHmacV1Signature runtime (storedHash runtime connector) (toString timestampEpoch) (request.nonce.getD "")
        request.body
  fresh : (cleanHmacNonceHistory runtime connector.config nowEpoch).get? (request.nonce.getD "") = none

/-- Credentials for the way in which a connector authenticates; the other ways ask for none. -/
def ValidCredentials (connector : AgentConnector) (now : Instant) (request : WebhookRequest) : Prop :=
  match connector.authType with
  | some .bearer | some .apiKey => BearsSecret runtime connector request
  | some .hmac => SignsRequest runtime connector (epochSeconds now) request
  | _ => True

/-- A way to authenticate that a webhook can pass. -/
def TakesCredentials (connector : AgentConnector) : Prop :=
  connector.authType = some .bearer ∨ connector.authType = some .apiKey ∨ connector.authType = some .hmac

/-- How often authentication reads the clock when it lets a request through. -/
def authenticationReadings (connector : AgentConnector) : Nat := if connector.authType = some .hmac then 4 else 2

section Checks

variable {runtime} {connector : AgentConnector} {request : WebhookRequest} {ticks : Nat}

theorem bearer_passes (bears : BearsSecret runtime connector request) :
    (authenticateBearer runtime (storedHash runtime connector) request).run ⟨ticks, connector⟩ = (.ok (), ⟨ticks, connector⟩) := by
  unfold authenticateBearer
  dsimp only
  rw [if_neg (by rw [bears.bearer]; decide), if_neg (not_not.mpr bears.secret)]
  rfl

theorem hmac_passes (signs : SignsRequest runtime connector (epochSeconds (runtime.clock ticks)) request) :
    (authenticateHmacV1 runtime (storedHash runtime connector) request).Ends ⟨ticks, connector⟩ fun outcome after =>
      outcome = .ok () ∧ after.ticks = ticks + 2 := by
  obtain ⟨timestampEpoch, parsed, window, matching⟩ := signs.timestamp
  -- the checks of the source, in their order
  unfold authenticateHmacV1 parseUnixTimestamp
  rw [ends_bind, ends_demand]
  refine ⟨fun _ => ?_, fun other => absurd signs.version other⟩
  rw [continue_ok, ends_bind, ends_demand]
  refine ⟨fun _ => ?_, fun other => absurd signs.signed other⟩
  rw [continue_ok, ends_bind, ends_demand]
  refine ⟨fun _ => ?_, fun other => absurd signs.nonce other⟩
  rw [continue_ok, ends_bind, ends_bind, ends_demand]
  refine ⟨fun _ => ?_, fun other => absurd signs.timed other⟩
  rw [continue_ok, parsed, ends_found_some, continue_ok, ends_bind, ends_readClock, continue_ok, ends_bind, ends_demand]
  refine ⟨fun _ => ?_, fun other => absurd window other⟩
  rw [continue_ok, ends_bind, ends_demand]
  refine ⟨fun _ => ?_, fun other => absurd matching other⟩
  rw [continue_ok]
  unfold assertHmacV1NotReplayed
  rw [ends_bind, ends_currentConnector, continue_ok, ends_ite]
  constructor
  · intro known
    -- the nonce is not among those tracked
    have fresh : (cleanHmacNonceHistory runtime connector.config (epochSeconds (runtime.clock ticks))).get?
        (request.nonce.getD "") = none := signs.fresh
    rw [show Clocked.ticks (ConnectorCase.mk ticks connector) = ticks from rfl] at known
    change ((cleanHmacNonceHistory runtime connector.config (epochSeconds (runtime.clock ticks))).get?
      (request.nonce.getD "")).isSome = true at known
    rw [fresh] at known
    cases known
  · intro unknown
    exact ⟨rfl, rfl⟩

/-- Authentication lets valid credentials through. -/
theorem authenticate_passes (enabled : connector.status = .enabled) (configured : secretConfigured connector = true)
    (takes : TakesCredentials connector) (credentials : ValidCredentials runtime connector (runtime.clock ticks) request) :
    (authenticateConnector runtime request).Ends ⟨ticks, connector⟩ fun outcome after =>
      outcome = .ok () ∧ after.ticks = ticks + authenticationReadings connector := by
  -- each kind of credentials passes the check, with the readings of the clock that it takes
  have checked : (checkCredentials runtime connector.authType (storedHash runtime connector) request).Ends ⟨ticks, connector⟩
      fun outcome after => outcome = .ok () ∧ after.ticks + 2 = ticks + authenticationReadings connector := by
    unfold ValidCredentials at credentials
    unfold checkCredentials authenticationReadings
    rcases takes with kind | kind | kind
    · rw [kind] at credentials ⊢
      unfold Ends
      rw [bearer_passes credentials]
      exact ⟨rfl, rfl⟩
    · rw [kind] at credentials ⊢
      unfold Ends
      rw [bearer_passes credentials]
      exact ⟨rfl, rfl⟩
    · rw [kind] at credentials ⊢
      rw [ends_rescue]
      apply Ends.mono (hmac_passes credentials)
      rintro outcome after ⟨rfl, later⟩
      exact ⟨rfl, by rw [later]; rfl⟩
  -- the connector is not barred from authenticating
  have unbarred : connector.authType ≠ some .none := by
    rcases takes with kind | kind | kind <;> rw [kind] <;> decide
  unfold authenticateConnector
  rw [ends_bind, ends_currentConnector, continue_ok, ends_ite]
  refine ⟨fun other => absurd enabled other, fun _ => ?_⟩
  rw [ends_ite]
  refine ⟨fun other => absurd other unbarred, fun _ => ?_⟩
  rw [ends_ite]
  refine ⟨fun missing => ?_, fun _ => ?_⟩
  · rw [configured] at missing
    cases missing
  · apply Ends.bind checked
    · rintro _ after ⟨_, later⟩
      exact ⟨rfl, later⟩
    · rintro error after ⟨impossible, _⟩
      cases impossible

/-- Authentication refuses whatever arrives at a connector that is disabled or has no secret, or
that authenticates in no way. -/
theorem authenticate_refuses
    (barred : connector.status ≠ .enabled ∨ secretConfigured connector = false ∨ ¬ TakesCredentials connector) :
    (authenticateConnector runtime request).Ends ⟨ticks, connector⟩ fun outcome _ => outcome ≠ .ok () := by
  have refused (reason detail : String) : (refuseAuth runtime reason detail : CaseProcedure Unit).Ends ⟨ticks, connector⟩
      fun outcome _ => outcome ≠ .ok () := by
    intro impossible
    cases impossible
  unfold authenticateConnector
  rw [ends_bind, ends_currentConnector, continue_ok, ends_ite]
  constructor
  · intro _
    exact refused _ _
  intro enabled
  rw [ends_ite]
  constructor
  · intro _ impossible
    cases impossible
  intro unbarred
  rw [ends_ite]
  constructor
  · intro _
    exact refused _ _
  intro configured
  -- enabled and with a secret, so only the kind of authentication is left to bar it
  have untaken : ¬ TakesCredentials connector := by
    rcases barred with disabled | missing | untaken
    · exact absurd disabled enabled
    · exact absurd missing configured
    · exact untaken
  have unsupported : connector.authType = none := by
    unfold TakesCredentials at untaken
    rcases kind : connector.authType with _ | _ | _ | _ | _ <;> simp_all
  rw [show (ConnectorCase.mk ticks connector).connector.authType = none from unsupported]
  intro impossible
  cases impossible

end Checks

end ControlTower.Connectors
