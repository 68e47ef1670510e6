import ControlTower.Trust.Service

/-! Short-lived capability tokens. A grant keeps the hash of its token; the token is
handed out once, and is looked up by its hash. -/

set_option autoImplicit false

namespace ControlTower

open Foundation
open Foundation.Procedure (demand found onlyIf)

inductive CredentialGrantType where
  | githubAppInstallation | oidcFederation | internalCapabilityToken
  deriving DecidableEq, Repr

def CredentialGrantType.value : CredentialGrantType → String
  | .githubAppInstallation => "GITHUB_APP_INSTALLATION"
  | .oidcFederation => "OIDC_FEDERATION"
  | .internalCapabilityToken => "INTERNAL_CAPABILITY_TOKEN"

structure CredentialGrant where
  id : String
  leaseId : String
  grantType : CredentialGrantType
  audience : String
  subject : String
  scope : List String
  issuedAt : Instant
  expiresAt : Instant
  revoked : Bool
  revokedAt : Option Instant
  tokenHash : String
  metadata : List (String × Document)
  deriving DecidableEq

structure CredentialGrantCreate where
  leaseId : String
  grantType : CredentialGrantType
  audience : String
  subject : String
  scope : List String
  expiresInSeconds : Nat

structure CredentialIntrospectionRequest where
  bearerToken : String
  audience : String
  requiredScope : List String

structure CredentialIntrospectionResult where
  active : Bool
  grantId : Option String
  leaseId : Option String
  subject : Option String
  audience : Option String
  scope : List String
  expiresAt : Option Instant
  reason : String
  deriving DecidableEq

/-- A token that is refused, for a reason. -/
def CredentialIntrospectionResult.inactive (reason : String) : CredentialIntrospectionResult where
  active := false
  grantId := none
  leaseId := none
  subject := none
  audience := none
  scope := []
  expiresAt := none
  reason := reason

/-- The store, with the grants. -/
structure CredentialStore where
  store : Store
  credentialGrants : Table String CredentialGrant

instance : Clocked CredentialStore where
  ticks credentials := credentials.store.ticks
  tick credentials := { credentials with store := Clocked.tick credentials.store }

abbrev CredentialProcedure := Procedure CredentialStore Raised

def CredentialStore.withStore (store : Store) (credentials : CredentialStore) : CredentialStore := { credentials with store }

def inStore {α : Type} (body : StoreProcedure α) : CredentialProcedure α :=
  Procedure.within CredentialStore.store CredentialStore.withStore body

/-- `int(….total_seconds())` of the time up to an instant. -/
def secondsUntil (ends now : Instant) : Int := Int.tdiv ((ends : Int) - (now : Int)) 1000000

/-- The record of a token that is issued on a lease. -/
def CredentialGrantCreate.grant (payload : CredentialGrantCreate) (grantId leaseId tokenHash : String)
    (expiresFrom issuedAt : Instant) (user : AuthUser) : CredentialGrant where
  id := grantId
  leaseId := leaseId
  grantType := payload.grantType
  audience := payload.audience
  subject := payload.subject
  scope := payload.scope
  issuedAt := issuedAt
  expiresAt := expiresFrom.plusSeconds payload.expiresInSeconds
  revoked := false
  revokedAt := none
  tokenHash := tokenHash
  metadata := [("issued_by_user_id", .text user.id)]

/-- Draw a token and store a grant with its hash. The digest of a bearer token is a
parameter; the runtime's own is one of documents. -/
def storeGrant (runtime : Runtime) (hashToken : String → String) (payload : CredentialGrantCreate)
    (lease : CapabilityLease) (user : AuthUser) : CredentialProcedure (CredentialGrant × String) := do
  let rawToken ← drawSecret runtime
  let expiresFrom ← readClock runtime
  let issuedAt ← readClock runtime
  let credentials ← Procedure.state
  let grant := payload.grant (runtime.newId "credential_grant" credentials.credentialGrants.keys) lease.id
    (hashToken rawToken) expiresFrom issuedAt user
  .modify fun credentials => { credentials with
    credentialGrants := credentials.credentialGrants.set grant.id grant }
  inStore (appendTrustEvent runtime .credentialGrantIssued "credential_grant" grant.id user.email none
    (.object [("audience", .text grant.audience), ("expires_at", .instant grant.expiresAt),
      ("grant_type", .text grant.grantType.value), ("lease_id", .text lease.id), ("scope", .ofTexts grant.scope),
      ("subject", .text grant.subject)]))
  inStore persist
  return (grant, rawToken)

def issueCredentialGrant (runtime : Runtime) (hashToken : String → String) (payload : CredentialGrantCreate)
    (user : AuthUser) : CredentialProcedure (CredentialGrant × String) := do
  let credentials ← Procedure.state
  let lease ← found (credentials.store.capabilityLeases.get? payload.leaseId)
    (.valueError "Capability lease not found.")
  let lease ← inStore (refreshLeaseStatus runtime lease)
  demand (lease.status = .active) (.trustControlConflict "Credentials require an active capability lease.")
  demand (payload.grantType = .internalCapabilityToken)
    (.http 501 "External GitHub App and OIDC brokers require deployment-specific issuer integration.")
  let now ← readClock runtime
  demand (payload.expiresInSeconds ≤ secondsUntil lease.expiresAt now)
    (.trustControlConflict "Credential grant cannot outlive its capability lease.")
  storeGrant runtime hashToken payload lease user

def introspectionOf (credentials : CredentialStore) (payload : CredentialIntrospectionRequest) (now : Instant)
    (grant : CredentialGrant) : CredentialIntrospectionResult :=
  let live := (credentials.store.capabilityLeases.get? grant.leaseId).any fun lease =>
    decide (lease.status = .active) && decide (now < lease.expiresAt)
  let missingScope := sortTexts (keepFirst (payload.requiredScope.filter fun item => !grant.scope.contains item))
  if grant.revoked = true then .inactive "Credential grant was revoked."
  else if grant.expiresAt ≤ now then .inactive "Credential grant expired."
  else if live = false then .inactive "Capability lease is not active."
  else if grant.audience ≠ payload.audience then .inactive "Credential audience mismatch."
  else if missingScope ≠ [] then .inactive ("Credential scope is missing: " ++ Text.join ", " missingScope)
  else
    { active := true
      grantId := some grant.id
      leaseId := some grant.leaseId
      subject := some grant.subject
      audience := some grant.audience
      scope := grant.scope
      expiresAt := some grant.expiresAt
      reason := "" }

/-- The loop over the grants stops at the first one with the hash of the token. -/
def introspectCredential (runtime : Runtime) (hashToken : String → String) (payload : CredentialIntrospectionRequest) :
    CredentialProcedure CredentialIntrospectionResult := do
  let now ← readClock runtime
  let credentials ← Procedure.state
  match credentials.credentialGrants.values.find? fun grant => hashToken payload.bearerToken == grant.tokenHash with
  | none => return .inactive "Credential token is invalid."
  | some grant => return introspectionOf credentials payload now grant

def changeGrant (grantId : String) (change : CredentialGrant → CredentialGrant) : CredentialProcedure Unit :=
  .modify fun credentials => { credentials with
    credentialGrants := credentials.credentialGrants.adjust grantId change }

def CredentialGrant.revokedWith (revokedAt : Instant) (metadata : List (String × Document)) (grant : CredentialGrant) :
    CredentialGrant :=
  { grant with revoked := true, revokedAt := some revokedAt, metadata }

def revokeCredentialGrant (runtime : Runtime) (grantId reason : String) (user : AuthUser) : CredentialProcedure Unit := do
  let credentials ← Procedure.state
  let canonical ← found (credentials.credentialGrants.get? grantId) (.http 404 "Credential grant not found")
  if canonical.revoked = true then pure ()
  else do
    let revokedAt ← readClock runtime
    changeGrant grantId (CredentialGrant.revokedWith revokedAt
      (Document.setField "revocation_reason" (.text reason)
        (Document.setField "revoked_by_user_id" (.text user.id) canonical.metadata)))
    inStore (appendTrustEvent runtime .credentialGrantRevoked "credential_grant" canonical.id user.email none
      (.object [("lease_id", .text canonical.leaseId), ("reason", .text reason)]))
    inStore persist

/-- Revoke the grant of one identifier, if it is one of the lease that is not revoked yet. -/
def revokeGrantOf (runtime : Runtime) (leaseId grantId : String) : CredentialProcedure Unit := do
  let credentials ← Procedure.state
  match credentials.credentialGrants.get? grantId with
  | none => pure ()
  | some grant =>
      onlyIf (grant.leaseId = leaseId ∧ grant.revoked = false) (do
        let revokedAt ← readClock runtime
        changeGrant grantId (CredentialGrant.revokedWith revokedAt grant.metadata))

/-- The loop of `revoke_capability_lease` over the grants. -/
def revokeGrants (runtime : Runtime) (leaseId : String) : CredentialProcedure Unit := do
  let credentials ← Procedure.state
  Procedure.each (revokeGrantOf runtime leaseId) credentials.credentialGrants.keys

/-- `revoke_capability_lease` with the grants of the lease. -/
def revokeLeaseAndGrants (runtime : Runtime) (lease : CapabilityLease) (reason : String) (user : AuthUser) :
    CredentialProcedure Unit := do
  let lease ← inStore (refreshLeaseStatus runtime lease)
  if lease.status = .revoked ∨ lease.status = .expired then pure ()
  else do
    demand (lease.status = .active)
      (.trustControlConflict s!"Lease cannot be revoked from {lease.status.value}.")
    let revokedAt ← readClock runtime
    let updatedAt ← readClock runtime
    inStore (changeLease lease.id fun lease =>
      { lease with
        status := .revoked
        revokedAt := some revokedAt
        revokedByUserId := some user.id
        revocationReason := reason
        updatedAt })
    revokeGrants runtime lease.id
    inStore (appendTrustEvent runtime .leaseRevoked "capability_lease" lease.id user.email none
      (.object [("reason", .text reason)]))
    inStore persist

end ControlTower
