import ControlTower.Foundation.Table
import ControlTower.Foundation.Text
import ControlTower.Models

/-! Users, invites and sessions. An invite is known by the digest of its token; the
token itself is told once and is not stored. -/

set_option autoImplicit false

namespace ControlTower

open Foundation
open Foundation.Procedure

/-- The runtime with the functions that registration needs besides. -/
structure AccessRuntime extends Runtime where
  /-- `hash_invite_token`. -/
  tokenHash : String → String
  /-- `str.isalnum` of one character. -/
  isAlnum : Char → Bool

structure User where
  id : String
  email : String
  displayName : String
  role : UserRole
  disabled : Bool
  emailVerified : Bool
  emailVerificationExpiresAt : Option Instant
  emailVerificationSentAt : Option Instant
  createdAt : Instant
  updatedAt : Instant
  deriving DecidableEq

structure SessionToken where
  id : String
  userId : String
  expiresAt : Instant
  revoked : Bool
  deriving DecidableEq

inductive InviteStatus where
  | pending | accepted | expired | revoked
  deriving DecidableEq, Repr

def InviteStatus.value : InviteStatus → String
  | .pending => "PENDING"
  | .accepted => "ACCEPTED"
  | .expired => "EXPIRED"
  | .revoked => "REVOKED"

structure Invite where
  id : String
  email : String
  role : UserRole
  tokenHash : String
  status : InviteStatus
  expiresAt : Instant
  createdByUserId : String
  acceptedByUserId : Option String
  createdAt : Instant
  updatedAt : Instant
  deriving DecidableEq

structure AccessStore where
  ticks : Nat
  users : Table String User
  sessions : Table String SessionToken
  invites : Table String Invite

instance : Clocked AccessStore where
  ticks := AccessStore.ticks
  tick store := { store with ticks := store.ticks + 1 }

abbrev AccessProcedure := Procedure AccessStore Raised

namespace AccessStore

def changeUser (userId : String) (change : User → User) (store : AccessStore) : AccessStore :=
  { store with users := store.users.adjust userId change }

def changeInvite (inviteId : String) (change : Invite → Invite) (store : AccessStore) : AccessStore :=
  { store with invites := store.invites.adjust inviteId change }

end AccessStore

def isActiveOwner (user : User) : Bool := user.role == .owner && !user.disabled

def AccessStore.activeOwnerCount (store : AccessStore) : Nat := (store.users.values.filter isActiveOwner).length

end ControlTower
