import ControlTower.Access.Policy
import ControlTower.Foundation.Machine

/-! The routes of registration, invites, roles and account deletion. -/

set_option autoImplicit false

namespace ControlTower

open Foundation
open Foundation.Procedure

section Invites

def inviteDays : Nat := 7

structure InviteCreateRequest where
  email : String
  role : UserRole
  expiresInDays : Nat
  dayBounds : 1 ≤ expiresInDays ∧ expiresInDays ≤ 30

def normalizeEmail (runtime : AccessRuntime) (email : String) : String := Text.strip (runtime.lower email)

/-- The clock is read only for a pending invite. -/
def effectiveInviteStatus (runtime : AccessRuntime) (invite : Invite) : AccessProcedure InviteStatus :=
  if invite.status = .pending then do
    let now ← readClock runtime.toRuntime
    return if invite.expiresAt ≤ now then .expired else .pending
  else pure invite.status

def publicInvite (runtime : AccessRuntime) (invite : Invite) : AccessProcedure Invite := do
  let status ← effectiveInviteStatus runtime invite
  return { invite with status }

def ensureNoPendingInvite (runtime : AccessRuntime) (email : String) : List Invite → AccessProcedure Unit
  | [] => pure ()
  | invite :: rest =>
      if invite.email = email then do
        let status ← effectiveInviteStatus runtime invite
        demand (status ≠ .pending) (.http 409 "Pending invite already exists")
        ensureNoPendingInvite runtime email rest
      else ensureNoPendingInvite runtime email rest

/-- The invite with its effective status written back. -/
def settleInvite (runtime : AccessRuntime) (invite : Invite) : AccessProcedure Invite := do
  let status ← effectiveInviteStatus runtime invite
  .modify (AccessStore.changeInvite invite.id fun held => { held with status })
  return { invite with status }

def validateInviteToken (runtime : AccessRuntime) (token : String) : AccessProcedure Invite := do
  let store ← Procedure.state
  let invite ← found (store.invites.values.find? fun item => item.tokenHash == runtime.tokenHash token)
    (.http 404 "Invite not found")
  let settled ← settleInvite runtime invite
  demand (settled.status = .pending) (.http 409 ("Invite is " ++ settled.status.value))
  return settled

/-- The public invite and its token. -/
def createInvite (runtime : AccessRuntime) (payload : InviteCreateRequest) (actor : AuthUser) :
    AccessProcedure (Invite × String) := do
  let email := normalizeEmail runtime payload.email
  let store ← Procedure.state
  ensureNoPendingInvite runtime email store.invites.values
  let rawToken ← drawSecret runtime.toRuntime
  let now ← readClock runtime.toRuntime
  let createdAt ← readClock runtime.toRuntime
  let updatedAt ← readClock runtime.toRuntime
  let invite ← Procedure.update fun store =>
    let id := runtime.newId "invite" store.invites.keys
    let invite : Invite :=
      { id
        email
        role := payload.role
        tokenHash := runtime.tokenHash rawToken
        status := .pending
        expiresAt := now.plusSeconds (payload.expiresInDays * 86400)
        createdByUserId := actor.id
        acceptedByUserId := none
        createdAt
        updatedAt }
    (invite, { store with invites := store.invites.set id invite })
  let shown ← publicInvite runtime invite
  return (shown, rawToken)

/-- The loop of `list_invites` that writes the effective status back. -/
def refreshInvites (runtime : AccessRuntime) : List Invite → AccessProcedure Unit
  | [] => pure ()
  | invite :: rest => do
      let status ← effectiveInviteStatus runtime invite
      if invite.status = status then refreshInvites runtime rest
      else do
        let updatedAt ← readClock runtime.toRuntime
        .modify (AccessStore.changeInvite invite.id fun held => { held with status, updatedAt })
        refreshInvites runtime rest

def publicInvites (runtime : AccessRuntime) : List Invite → AccessProcedure (List Invite)
  | [] => pure []
  | invite :: rest => do
      let shown ← publicInvite runtime invite
      let others ← publicInvites runtime rest
      return shown :: others

def listInvites (runtime : AccessRuntime) : AccessProcedure (List Invite) := do
  let store ← Procedure.state
  refreshInvites runtime store.invites.values
  let refreshed ← Procedure.state
  publicInvites runtime (refreshed.invites.values.mergeSort fun first second => second.createdAt ≤ first.createdAt)

def revokeInvite (runtime : AccessRuntime) (inviteId : String) : AccessProcedure Invite := do
  let store ← Procedure.state
  let invite ← found (store.invites.get? inviteId) (.http 404 "Invite not found")
  let settled ← settleInvite runtime invite
  demand (settled.status ≠ .accepted) (.http 409 "Accepted invites cannot be revoked")
  if settled.status = .revoked then publicInvite runtime settled
  else do
    demand (settled.status ≠ .expired) (.http 409 "Expired invites cannot be revoked")
    let updatedAt ← readClock runtime.toRuntime
    .modify (AccessStore.changeInvite inviteId fun held => { held with status := .revoked, updatedAt })
    publicInvite runtime { settled with status := .revoked, updatedAt }

end Invites

section Registration

structure RegisterRequest where
  email : String
  password : String
  displayName : String
  inviteToken : Option String

def verificationMinutes : Nat := 30

/-- The role of a user that is created without one. -/
def defaultRoleForNewUser (store : AccessStore) : UserRole := if store.users.values = [] then .owner else .reviewer

def createUser (runtime : AccessRuntime) (email displayName : String) (role : Option UserRole) (emailVerified : Bool) :
    AccessProcedure User := do
  let normalizedEmail := Text.strip (runtime.lower email)
  let store ← Procedure.state
  demand (∀ user ∈ store.users.values, runtime.lower user.email ≠ normalizedEmail) (.http 409 "User already exists")
  let createdAt ← readClock runtime.toRuntime
  let updatedAt ← readClock runtime.toRuntime
  .update fun store =>
    let id := runtime.newId "user" store.users.keys
    let user : User :=
      { id
        email := normalizedEmail
        displayName := Text.orElse (Text.strip displayName) normalizedEmail
        role := role.getD (defaultRoleForNewUser store)
        disabled := false
        emailVerified
        emailVerificationExpiresAt := none
        emailVerificationSentAt := none
        createdAt
        updatedAt }
    (user, { store with users := store.users.set id user })

/-- `create_registration_response` with `_issue_email_verification`. -/
def createRegistrationResponse (runtime : AccessRuntime) (user : User) : AccessProcedure AuthUser := do
  let now ← readClock runtime.toRuntime
  .modify (AccessStore.changeUser user.id fun held =>
    { held with
      emailVerificationExpiresAt := some (now.plusSeconds (verificationMinutes * 60))
      emailVerificationSentAt := some now
      updatedAt := now })
  return ⟨user.id, user.email, user.role⟩

def validateRegistrationPayload (runtime : AccessRuntime) (resolves : String → Bool) (payload : RegisterRequest) :
    AccessProcedure Unit :=
  match (emailFailure runtime resolves payload.email).or (passwordFailure runtime payload.password payload.email) with
  | some failure => Procedure.raise (.http 422 failure)
  | none => pure ()

def registerWithInvite (runtime : AccessRuntime) (resolves : String → Bool) (payload : RegisterRequest) :
    AccessProcedure AuthUser := do
  validateRegistrationPayload runtime resolves payload
  let invite ← validateInviteToken runtime (payload.inviteToken.getD "")
  demand (invite.email = normalizeEmail runtime payload.email)
    (.http 403 "Invite email does not match registration email")
  let user ← createUser runtime payload.email payload.displayName (some invite.role) false
  let updatedAt ← readClock runtime.toRuntime
  .modify (AccessStore.changeInvite invite.id fun held =>
    { held with status := .accepted, acceptedByUserId := some user.id, updatedAt })
  createRegistrationResponse runtime user

def registerBootstrap (runtime : AccessRuntime) (payload : RegisterRequest) : AccessProcedure AuthUser := do
  let user ← createUser runtime payload.email payload.displayName none false
  createRegistrationResponse runtime user

def register (runtime : AccessRuntime) (resolves : String → Bool) (payload : RegisterRequest) : AccessProcedure AuthUser := do
  validateRegistrationPayload runtime resolves payload
  let store ← Procedure.state
  if store.users.values = [] then registerBootstrap runtime payload
  else do
    demand (Text.present payload.inviteToken = true)
      (.http 403 "Invite token is required after bootstrap owner registration")
    registerWithInvite runtime resolves payload

end Registration

section Users

def updateUserRole (runtime : AccessRuntime) (userId : String) (requestedRole : UserRole) : AccessProcedure AuthUser := do
  let store ← Procedure.state
  let target ← found (store.users.get? userId) (.http 404 "User not found")
  if target.role = requestedRole then return ⟨target.id, target.email, target.role⟩
  else do
    demand (¬(target.role = .owner ∧ requestedRole ≠ .owner ∧ store.activeOwnerCount ≤ 1))
      (.http 409 "Cannot remove the last active OWNER.")
    let updatedAt ← readClock runtime.toRuntime
    .modify (AccessStore.changeUser userId fun held => { held with role := requestedRole, updatedAt })
    return ⟨target.id, target.email, requestedRole⟩

/-- The answer tells the user and how many sessions were revoked. -/
def requestAccountDeletion (runtime : AccessRuntime) (actor : AuthUser) : AccessProcedure (String × Nat) := do
  let store ← Procedure.state
  let target ← found (store.users.get? actor.id) (.http 404 "Authenticated user not found")
  demand (target.disabled = false) (.http 409 "Account is already disabled")
  let requestedAt ← readClock runtime.toRuntime
  let isActive (session : SessionToken) : Bool :=
    session.userId == target.id && !session.revoked && decide (requestedAt < session.expiresAt)
  .modify fun store =>
    { store with
      sessions := store.sessions.mapValues fun _ session =>
        if isActive session = true then { session with revoked := true } else session
      users := store.users.adjust actor.id fun held => { held with disabled := true, updatedAt := requestedAt } }
  return (target.id, (store.sessions.values.filter isActive).length)

end Users

/-- What the access routes are asked for; `resolves` is what the name service
answers during a registration. -/
inductive AccessRequest where
  | register (resolves : String → Bool) (payload : RegisterRequest)
  | createInvite (payload : InviteCreateRequest) (actor : AuthUser)
  | listInvites
  | revokeInvite (inviteId : String)
  | updateUserRole (userId : String) (role : UserRole)
  | requestAccountDeletion (actor : AuthUser)

def AccessRequest.run (runtime : AccessRuntime) : AccessRequest → AccessProcedure Unit
  | .register resolves payload => do
      let _ ← ControlTower.register runtime resolves payload
  | .createInvite payload actor => do
      let _ ← ControlTower.createInvite runtime payload actor
  | .listInvites => do
      let _ ← ControlTower.listInvites runtime
  | .revokeInvite inviteId => do
      let _ ← ControlTower.revokeInvite runtime inviteId
  | .updateUserRole userId role => do
      let _ ← ControlTower.updateUserRole runtime userId role
  | .requestAccountDeletion actor => do
      let _ ← ControlTower.requestAccountDeletion runtime actor

/-- No users, no invites and no sessions. -/
structure AccessStore.Fresh (store : AccessStore) : Prop where
  users : store.users = .empty
  sessions : store.sessions = .empty
  invites : store.invites = .empty

def accessMachine (runtime : AccessRuntime) : Machine AccessStore AccessRequest where
  initial := AccessStore.Fresh
  next store request := ((request.run runtime).run store).2

end ControlTower
