import ControlTower.Run.Effects
import ControlTower.Trust.Credentials
import ControlTower.Trust.Leases

/-! Capability tokens over whole histories. A lease that is not active and a grant that
is revoked stay so, whatever is asked for afterwards, and a token finds no grant but
the one it was issued for. -/

set_option autoImplicit false

namespace ControlTower

open Foundation
open Foundation.Procedure

section Machine

/-- What the trust service is asked for, with its grants. -/
inductive CredentialRequest where
  | run (request : RunRequest)
  | issueGrant (payload : CredentialGrantCreate) (user : AuthUser)
  | introspect (payload : CredentialIntrospectionRequest)
  | revokeGrant (grantId reason : String) (user : AuthUser)
  /-- Nothing is asked for, and time goes by. -/
  | wait

def CredentialRequest.perform (runtime : Runtime) (hashToken : String → String) :
    CredentialRequest → CredentialProcedure Unit
  | .run (.revokeLease leaseId reason user) => do
      let lease ← inStore (leaseOr404 runtime leaseId)
      (revokeLeaseAndGrants runtime lease reason user).relabel Raised.asTrustError
  | .run request => inStore (ControlTower.perform runtime request)
  | .issueGrant payload user => do
      let _ ← issueCredentialGrant runtime hashToken payload user
      pure ()
  | .introspect payload => do
      let _ ← introspectCredential runtime hashToken payload
      pure ()
  | .revokeGrant grantId reason user => revokeCredentialGrant runtime grantId reason user
  | .wait => do
      let _ ← readClock runtime
      pure ()

def credentialMachine (runtime : Runtime) (hashToken : String → String) : Machine CredentialStore CredentialRequest where
  initial credentials := credentials.store.Fresh ∧ credentials.credentialGrants = .empty
  next credentials request := ((request.perform runtime hashToken).run credentials).2

end Machine

section Leases

variable {runtime : Runtime} {before middle after : Store} {leaseId : String}

/-- The lease is there and not active. -/
def Store.DeadLease (store : Store) (leaseId : String) : Prop :=
  ∃ lease, store.capabilityLeases.get? leaseId = some lease ∧ lease.status ≠ .active

/-- Records stay under their identifiers, dead leases stay dead, and time does not go back. -/
structure Store.Settles (before after : Store) : Prop where
  filed : before.Filed → after.Filed
  dead : before.Filed → ∀ leaseId, before.DeadLease leaseId → after.DeadLease leaseId
  time : before.Filed → before.ticks ≤ after.ticks

theorem Store.settles_self (store : Store) : store.Settles store := ⟨fun filed => filed, fun _ _ dead => dead, fun _ => Nat.le_refl _⟩

theorem Store.settles_trans (first middle last : Store) (start : first.Settles middle) (rest : middle.Settles last) :
    first.Settles last where
  filed filed := rest.filed (start.filed filed)
  dead filed leaseId dead := rest.dead (start.filed filed) leaseId (start.dead filed leaseId dead)
  time filed := Nat.le_trans (start.time filed) (rest.time (start.filed filed))

theorem deadLease_adjust {key : String} {change : CapabilityLease → CapabilityLease}
    (kept : ∀ lease, lease.status ≠ .active → (change lease).status ≠ .active)
    (leases : after.capabilityLeases = before.capabilityLeases.adjust key change) (dead : before.DeadLease leaseId) :
    after.DeadLease leaseId := by
  obtain ⟨lease, stored, inactive⟩ := dead
  unfold Store.DeadLease
  rw [leases, Table.get?_adjust, stored]
  split
  · exact ⟨change lease, rfl, kept lease inactive⟩
  · exact ⟨lease, rfl, inactive⟩

theorem deadLease_same (leases : after.capabilityLeases = before.capabilityLeases) (dead : before.DeadLease leaseId) :
    after.DeadLease leaseId := by
  unfold Store.DeadLease
  rw [leases]
  exact dead

/-- No effect revives a lease. -/
theorem TrustEffect.keepsDead {permission : Permission} (effect : TrustEffect runtime permission before after)
    (dead : before.DeadLease leaseId) : after.DeadLease leaseId := by
  cases effect with
  | elsewhere same => exact deadLease_same same.leases dead
  | issue payload approval lease valid admits grants fresh sole same =>
    obtain ⟨held, stored, inactive⟩ := dead
    refine ⟨held, ?_, inactive⟩
    rw [same.leases, Table.get?_set_other]
    · exact stored
    · intro known
      apply fresh
      rw [← known]
      exact Table.mem_keys.mpr ⟨held, stored⟩
  | expire lease now updatedAt stored active read ended same =>
    apply deadLease_adjust _ same.leases dead
    intro lease _ impossible
    cases impossible
  | revoke lease user reason revokedAt updatedAt stored active same =>
    apply deadLease_adjust _ same.leases dead
    intro lease _ impossible
    cases impossible
  | consume action decision lease consumption now stored latest allowed first named held active pays same =>
    apply deadLease_adjust _ same.leases dead
    intro lease inactive
    exact inactive
  | evaluate action decision now permitted read records same => exact deadLease_same same.leases dead
  | authorize action current decision authorization stored latest undecided first fresh about signed records same =>
    exact deadLease_same same.leases dead

/-- No request to the run service revives a lease. -/
theorem perform_settles (request : RunRequest) : Guarantees Store.Settles (perform runtime request) := by
  intro store
  have keeps (invariant : Store → Prop)
      (effect : ∀ before after, TrustEffect runtime .all before after → before.Filed → invariant before → invariant after)
      (beside : ∀ before after : Store, before.SameLedger after → invariant before → invariant after) (filed : store.Filed)
      (holds : invariant store) := next_keeps effect beside (allows_all store request) filed holds
  refine ⟨?_, ?_, ?_⟩
  · intro filed
    exact (keeps (fun _ => True) (fun _ _ _ _ _ => trivial) (fun _ _ _ _ => trivial) filed trivial).1
  · intro filed leaseId dead
    exact (keeps (·.DeadLease leaseId) (fun _ _ effect _ => effect.keepsDead)
      (fun _ _ same => deadLease_same same.leases) filed dead).2
  · intro filed
    exact (keeps (store.ticks ≤ ·.ticks) (fun _ _ effect _ later => Nat.le_trans later effect.time)
      (fun _ _ same later => Nat.le_trans later same.time) filed (Nat.le_refl _)).2

theorem settles_of_same (leases : after.capabilityLeases = before.capabilityLeases)
    (actions : after.proposedActions = before.proposedActions) (time : before.ticks ≤ after.ticks) : before.Settles after where
  filed filed := ⟨leases ▸ filed.leases, actions ▸ filed.actions⟩
  dead _ _ dead := deadLease_same leases dead
  time _ := time

abbrev Settling {α : Type} (body : StoreProcedure α) : Prop := Guarantees Store.Settles body

variable {α β : Type}

theorem settling_bind {first : StoreProcedure α} {next : α → StoreProcedure β} (start : Settling first)
    (rest : ∀ value, Settling (next value)) : Settling (first >>= next) := guarantees_bind Store.settles_trans start rest

theorem settling_pure (value : α) : Settling (pure value) := guarantees_pure Store.settles_self value

theorem settling_readClock : Settling (readClock runtime : StoreProcedure Instant) :=
  fun _ => settles_of_same rfl rfl (Nat.le_succ _)

theorem settling_event {eventType : TrustEventType} {entityType entityId actor : String} {correlationId : Option String}
    {payload : Document} : Settling (appendTrustEvent runtime eventType entityType entityId actor correlationId payload) :=
  settling_bind settling_readClock fun _ => fun _ => settles_of_same rfl rfl (Nat.le_refl _)

theorem settling_persist : Settling persist := fun _ => settles_of_same rfl rfl (Nat.le_refl _)

/-- A change that ends a lease. -/
theorem settling_changeLease {change : CapabilityLease → CapabilityLease} (key : String)
    (named : ∀ lease, (change lease).id = lease.id) (ends : ∀ lease, (change lease).status ≠ .active) :
    Settling (changeLease key change) := by
  intro store
  refine ⟨?_, ?_, fun _ => Nat.le_refl _⟩
  · intro filed
    exact ⟨filed_adjust filed.leases key named, filed.actions⟩
  · intro _ leaseId dead
    exact deadLease_adjust (fun lease _ => ends lease) rfl dead

theorem settling_refresh (lease : CapabilityLease) : Settling (refreshLeaseStatus runtime lease) := by
  unfold refreshLeaseStatus
  apply guarantees_ite
  · apply settling_bind settling_readClock
    intro now
    apply guarantees_ite
    · apply settling_bind settling_readClock
      intro updatedAt
      apply settling_bind
      · apply settling_changeLease
        · exact fun _ => rfl
        · intro lease impossible
          cases impossible
      · intro _
        exact settling_bind settling_event fun _ => settling_bind settling_persist fun _ => settling_pure _
    · exact settling_pure _
  · exact settling_pure _

end Leases

section Grants

variable {runtime : Runtime} {α β : Type}

/-- The same grant later; once it is revoked it stays revoked. -/
structure CredentialGrant.Lasts (grant later : CredentialGrant) : Prop where
  id : later.id = grant.id
  lease : later.leaseId = grant.leaseId
  token : later.tokenHash = grant.tokenHash
  revoked : grant.revoked = true → later.revoked = true

/-- No grant comes or goes, and none is given back its token. -/
structure CredentialStore.Keeps (before after : CredentialStore) : Prop where
  store : before.store.Settles after.store
  keys : after.credentialGrants.keys = before.credentialGrants.keys
  grants : ∀ grantId grant, before.credentialGrants.get? grantId = some grant →
    ∃ later, after.credentialGrants.get? grantId = some later ∧ grant.Lasts later

theorem CredentialGrant.lasts_self (grant : CredentialGrant) : grant.Lasts grant := ⟨rfl, rfl, rfl, fun revoked => revoked⟩

theorem CredentialGrant.Lasts.trans {first middle last : CredentialGrant} (start : first.Lasts middle)
    (rest : middle.Lasts last) : first.Lasts last :=
  ⟨rest.id.trans start.id, rest.lease.trans start.lease, rest.token.trans start.token,
    fun revoked => rest.revoked (start.revoked revoked)⟩

theorem CredentialStore.keeps_same {before after : CredentialStore} (settles : before.store.Settles after.store)
    (grants : after.credentialGrants = before.credentialGrants) : before.Keeps after where
  store := settles
  keys := by rw [grants]
  grants grantId grant stored := by
    rw [grants]
    exact ⟨grant, stored, grant.lasts_self⟩

theorem CredentialStore.keeps_self (credentials : CredentialStore) : credentials.Keeps credentials :=
  keeps_same credentials.store.settles_self rfl

theorem CredentialStore.keeps_trans (first middle last : CredentialStore) (start : first.Keeps middle)
    (rest : middle.Keeps last) : first.Keeps last where
  store := Store.settles_trans _ _ _ start.store rest.store
  keys := rest.keys.trans start.keys
  grants grantId grant stored := by
    obtain ⟨between, found, lasts⟩ := start.grants grantId grant stored
    obtain ⟨later, present, further⟩ := rest.grants grantId between found
    exact ⟨later, present, lasts.trans further⟩

abbrev Keeping {α : Type} (body : CredentialProcedure α) : Prop := Guarantees CredentialStore.Keeps body

theorem keeping_bind {first : CredentialProcedure α} {next : α → CredentialProcedure β} (start : Keeping first)
    (rest : ∀ value, Keeping (next value)) : Keeping (first >>= next) :=
  guarantees_bind CredentialStore.keeps_trans start rest

theorem keeping_pure (value : α) : Keeping (pure value) := guarantees_pure CredentialStore.keeps_self value

theorem keeping_read {next : CredentialStore → CredentialProcedure β} (rest : ∀ credentials, Keeping (next credentials)) :
    Keeping (Procedure.state >>= next) := keeping_bind (guarantees_state CredentialStore.keeps_self) rest

theorem keeping_readClock : Keeping (readClock runtime : CredentialProcedure Instant) :=
  fun _ => CredentialStore.keeps_same (settles_of_same rfl rfl (Nat.le_succ _)) rfl

/-- What the store does, the grants do not notice. -/
theorem keeping_inStore {body : StoreProcedure α} (settling : Settling body) : Keeping (inStore body) :=
  fun credentials => CredentialStore.keeps_same (settling credentials.store) rfl

theorem keeping_revoke (grantId : String) (revokedAt : Instant) (metadata : List (String × Document)) :
    Keeping (changeGrant grantId (CredentialGrant.revokedWith revokedAt metadata)) := by
  intro credentials
  refine ⟨Store.settles_self _, Table.keys_adjust _ _ _, ?_⟩
  intro other grant stored
  show ∃ later, (credentials.credentialGrants.adjust grantId _).get? other = some later ∧ _
  rw [Table.get?_adjust, stored]
  split
  · exact ⟨_, rfl, rfl, rfl, rfl, fun _ => rfl⟩
  · exact ⟨grant, rfl, grant.lasts_self⟩

theorem revokeGrantOf_keeping (leaseId grantId : String) : Keeping (revokeGrantOf runtime leaseId grantId) := by
  apply keeping_read
  intro credentials
  split
  · exact keeping_pure ()
  · apply guarantees_onlyIf CredentialStore.keeps_self
    exact keeping_bind keeping_readClock fun _ => keeping_revoke grantId _ _

theorem revokeGrants_keeping (leaseId : String) : Keeping (revokeGrants runtime leaseId) := by
  apply keeping_read
  intro credentials
  apply guarantees_each CredentialStore.keeps_self CredentialStore.keeps_trans
  intro grantId _
  exact revokeGrantOf_keeping leaseId grantId

theorem revokeCredentialGrant_keeping (grantId reason : String) (user : AuthUser) :
    Keeping (revokeCredentialGrant runtime grantId reason user) := by
  apply keeping_read
  intro credentials
  apply keeping_bind (guarantees_found CredentialStore.keeps_self _ _)
  intro canonical
  apply guarantees_ite
  · exact keeping_pure ()
  · apply keeping_bind keeping_readClock
    intro revokedAt
    apply keeping_bind (keeping_revoke grantId _ _)
    intro _
    exact keeping_bind (keeping_inStore settling_event) fun _ => keeping_inStore settling_persist

theorem revokeLeaseAndGrants_keeping (lease : CapabilityLease) (reason : String) (user : AuthUser) :
    Keeping (revokeLeaseAndGrants runtime lease reason user) := by
  apply keeping_bind (keeping_inStore (settling_refresh lease))
  intro refreshed
  apply guarantees_ite
  · exact keeping_pure ()
  apply keeping_bind (guarantees_demand CredentialStore.keeps_self _)
  intro _
  apply keeping_bind keeping_readClock
  intro revokedAt
  apply keeping_bind keeping_readClock
  intro updatedAt
  apply keeping_bind
  · apply keeping_inStore
    apply settling_changeLease
    · exact fun _ => rfl
    · intro lease impossible
      cases impossible
  intro _
  apply keeping_bind (revokeGrants_keeping refreshed.id)
  intro _
  exact keeping_bind (keeping_inStore settling_event) fun _ => keeping_inStore settling_persist

theorem introspectCredential_keeping (hashToken : String → String) (payload : CredentialIntrospectionRequest) :
    Keeping (introspectCredential runtime hashToken payload) := by
  apply keeping_bind keeping_readClock
  intro now
  apply keeping_read
  intro credentials
  split
  · exact keeping_pure _
  · exact keeping_pure _

end Grants

section Issue

variable {runtime : Runtime} {hashToken : String → String} {credentials before after : CredentialStore}

/-- Grants stand under their identifiers, each with the hash of a secret that was drawn,
and no two of them with one hash. -/
structure CredentialStore.Sound (runtime : Runtime) (hashToken : String → String) (credentials : CredentialStore) : Prop where
  filed : credentials.store.Filed
  named : ∀ grantId grant, credentials.credentialGrants.get? grantId = some grant → grant.id = grantId
  drawn : ∀ grantId grant, credentials.credentialGrants.get? grantId = some grant →
    ∃ tick, tick < credentials.store.ticks ∧ grant.tokenHash = hashToken (runtime.secret tick)
  sole : ∀ grantId otherId grant other, credentials.credentialGrants.get? grantId = some grant →
    credentials.credentialGrants.get? otherId = some other → grant.tokenHash = other.tokenHash → grantId = otherId

/-- A grant that is there afterwards was there before. -/
theorem CredentialStore.Keeps.earlier (keeps : before.Keeps after) {grantId : String} {later : CredentialGrant}
    (stored : after.credentialGrants.get? grantId = some later) :
    ∃ grant, before.credentialGrants.get? grantId = some grant ∧ grant.Lasts later := by
  have known : grantId ∈ before.credentialGrants.keys := by
    rw [← keeps.keys]
    exact Table.mem_keys.mpr ⟨later, stored⟩
  obtain ⟨grant, found⟩ := Table.mem_keys.mp known
  obtain ⟨same, present, lasts⟩ := keeps.grants grantId grant found
  rw [stored] at present
  cases present
  exact ⟨grant, found, lasts⟩

theorem CredentialStore.Keeps.sound (keeps : before.Keeps after) (sound : before.Sound runtime hashToken) :
    after.Sound runtime hashToken where
  filed := keeps.store.filed sound.filed
  named := by
    intro grantId later stored
    obtain ⟨grant, found, lasts⟩ := keeps.earlier stored
    exact lasts.id.trans (sound.named grantId grant found)
  drawn := by
    intro grantId later stored
    obtain ⟨grant, found, lasts⟩ := keeps.earlier stored
    obtain ⟨tick, passed, hashed⟩ := sound.drawn grantId grant found
    exact ⟨tick, Nat.lt_of_lt_of_le passed (keeps.store.time sound.filed), lasts.token.trans hashed⟩
  sole := by
    intro grantId otherId later laterOther stored storedOther hashes
    obtain ⟨grant, found, lasts⟩ := keeps.earlier stored
    obtain ⟨other, foundOther, lastsOther⟩ := keeps.earlier storedOther
    apply sound.sole grantId otherId grant other found foundOther
    rw [← lasts.token, ← lastsOther.token]
    exact hashes

/-- What every request does to a sound store: leases settle, and no grant goes. -/
structure CredentialStore.Moves (runtime : Runtime) (hashToken : String → String) (before after : CredentialStore) : Prop where
  sound : before.Sound runtime hashToken → after.Sound runtime hashToken
  store : before.store.Settles after.store
  grants : ∀ grantId grant, before.credentialGrants.get? grantId = some grant →
    ∃ later, after.credentialGrants.get? grantId = some later ∧ grant.Lasts later

theorem CredentialStore.Keeps.moves (keeps : before.Keeps after) : before.Moves runtime hashToken after where
  sound := keeps.sound
  store := keeps.store
  grants := keeps.grants

theorem CredentialStore.moves_self (credentials : CredentialStore) : credentials.Moves runtime hashToken credentials :=
  credentials.keeps_self.moves

theorem CredentialStore.moves_trans (first middle last : CredentialStore) (start : first.Moves runtime hashToken middle)
    (rest : middle.Moves runtime hashToken last) : first.Moves runtime hashToken last where
  sound sound := rest.sound (start.sound sound)
  store := Store.settles_trans _ _ _ start.store rest.store
  grants grantId grant stored := by
    obtain ⟨between, found, lasts⟩ := start.grants grantId grant stored
    obtain ⟨later, present, further⟩ := rest.grants grantId between found
    exact ⟨later, present, lasts.trans further⟩

/-- The store after a token was drawn, the clock was read twice and a grant was stored. -/
def CredentialStore.withGrant (grant : CredentialGrant) (credentials : CredentialStore) : CredentialStore where
  store := { credentials.store with ticks := credentials.store.ticks + 3 }
  credentialGrants := credentials.credentialGrants.set grant.id grant

/-- A new grant has the hash of a secret that was not drawn before, so of no other grant. -/
theorem CredentialStore.withGrant_sound (distinct : Function.Injective fun tick => hashToken (runtime.secret tick))
    {grant : CredentialGrant} (hashed : grant.tokenHash = hashToken (runtime.secret credentials.store.ticks))
    (sound : credentials.Sound runtime hashToken) : (credentials.withGrant grant).Sound runtime hashToken := by
  have new : ∀ otherId other, credentials.credentialGrants.get? otherId = some other → other.tokenHash ≠ grant.tokenHash := by
    intro otherId other stored same
    obtain ⟨tick, passed, drawn⟩ := sound.drawn otherId other stored
    have ticks : tick = credentials.store.ticks := distinct (drawn.symm.trans (same.trans hashed))
    omega
  refine ⟨⟨sound.filed.leases, sound.filed.actions⟩, ?_, ?_, ?_⟩
  · intro grantId stored found
    simp only [withGrant, Table.get?_set] at found
    split at found
    · next same =>
      cases found
      exact same.symm
    · exact sound.named grantId stored found
  · intro grantId stored found
    simp only [withGrant, Table.get?_set] at found
    split at found
    · cases found
      exact ⟨_, Nat.lt_add_of_pos_right (by decide : 0 < 3), hashed⟩
    · obtain ⟨tick, passed, drawn⟩ := sound.drawn grantId stored found
      exact ⟨tick, Nat.lt_add_right 3 passed, drawn⟩
  · intro grantId otherId stored other found foundOther hashes
    simp only [withGrant, Table.get?_set] at found foundOther
    split at found <;> split at foundOther
    · next same sameOther => exact same.trans sameOther.symm
    · cases found
      exact absurd hashes.symm (new otherId other foundOther)
    · cases foundOther
      exact absurd hashes (new grantId stored found)
    · exact sound.sole grantId otherId stored other found foundOther hashes

theorem CredentialStore.withGrant_moves (distinct : Function.Injective fun tick => hashToken (runtime.secret tick))
    {grant : CredentialGrant} (hashed : grant.tokenHash = hashToken (runtime.secret credentials.store.ticks))
    (fresh : grant.id ∉ credentials.credentialGrants.keys) :
    credentials.Moves runtime hashToken (credentials.withGrant grant) where
  sound := withGrant_sound distinct hashed
  store := settles_of_same rfl rfl (Nat.le_add_right _ 3)
  grants := by
    intro grantId stored found
    refine ⟨stored, ?_, stored.lasts_self⟩
    simp only [withGrant]
    rw [Table.get?_set_other]
    · exact found
    · intro same
      apply fresh
      rw [← same]
      exact Table.mem_keys.mpr ⟨stored, found⟩

abbrev Moving {α : Type} (runtime : Runtime) (hashToken : String → String) (body : CredentialProcedure α) : Prop :=
  Guarantees (CredentialStore.Moves runtime hashToken) body

theorem Keeping.moving {α : Type} {body : CredentialProcedure α} (keeping : Keeping body) : Moving runtime hashToken body :=
  fun credentials => (keeping credentials).moves

theorem moving_bind {α β : Type} {first : CredentialProcedure α} {next : α → CredentialProcedure β}
    (start : Moving runtime hashToken first) (rest : ∀ value, Moving runtime hashToken (next value)) :
    Moving runtime hashToken (first >>= next) := guarantees_bind CredentialStore.moves_trans start rest

/-- Work that moves the store on, after a move. -/
theorem moves_then {α : Type} {body : CredentialProcedure α} (moves : before.Moves runtime hashToken after)
    (moving : Moving runtime hashToken body) : body.Ends after fun _ last => before.Moves runtime hashToken last :=
  CredentialStore.moves_trans _ _ _ moves (moving after)

theorem storeGrant_moving (distinct : Function.Injective fun tick => hashToken (runtime.secret tick))
    (payload : CredentialGrantCreate) (lease : CapabilityLease) (user : AuthUser) :
    Moving runtime hashToken (storeGrant runtime hashToken payload lease user) := by
  intro credentials
  show (storeGrant runtime hashToken payload lease user).Ends credentials fun _ last => credentials.Moves runtime hashToken last
  simp only [storeGrant, ends_bind, ends_drawSecret, ends_readClock, continue_ok, ends_state, ends_modify]
  apply (ends_bind _ _ _).mp
  have fresh := runtime.newId_fresh "credential_grant" credentials.credentialGrants.keys
  have moves (expiresFrom issuedAt : Instant) : credentials.Moves runtime hashToken (credentials.withGrant
      (payload.grant _ lease.id (hashToken (runtime.secret credentials.store.ticks)) expiresFrom issuedAt user)) :=
    CredentialStore.withGrant_moves distinct rfl fresh
  apply moves_then (moves _ _)
  apply Keeping.moving
  apply keeping_bind (keeping_inStore settling_event)
  intro _
  exact keeping_bind (keeping_inStore settling_persist) fun _ => keeping_pure _

theorem issueCredentialGrant_moving (distinct : Function.Injective fun tick => hashToken (runtime.secret tick))
    (payload : CredentialGrantCreate) (user : AuthUser) :
    Moving runtime hashToken (issueCredentialGrant runtime hashToken payload user) := by
  have demands {condition : Prop} [Decidable condition] (error : Raised) :
      Moving runtime hashToken (demand condition error) :=
    guarantees_demand CredentialStore.moves_self error
  apply moving_bind (guarantees_state CredentialStore.moves_self)
  intro credentials
  apply moving_bind (guarantees_found CredentialStore.moves_self _ _)
  intro lease
  apply moving_bind (keeping_inStore (settling_refresh lease)).moving
  intro refreshed
  apply moving_bind (demands _)
  intro _
  apply moving_bind (demands _)
  intro _
  apply moving_bind keeping_readClock.moving
  intro now
  exact moving_bind (demands _) fun _ => storeGrant_moving distinct payload refreshed user

/-- Every request settles the leases and keeps the grants. -/
theorem CredentialRequest.perform_moving (distinct : Function.Injective fun tick => hashToken (runtime.secret tick))
    (request : CredentialRequest) : Moving runtime hashToken (request.perform runtime hashToken) := by
  have run (request : RunRequest) : Moving runtime hashToken (inStore (ControlTower.perform runtime request)) :=
    (keeping_inStore (perform_settles request)).moving
  cases request with
  | run request =>
    cases request with
    | revokeLease leaseId reason user =>
      apply Keeping.moving
      apply keeping_bind
      · apply keeping_inStore
        apply settling_bind (guarantees_state Store.settles_self)
        intro store
        apply settling_bind (guarantees_found Store.settles_self _ _)
        exact fun lease => settling_refresh lease
      · intro lease
        exact guarantees_relabel (revokeLeaseAndGrants_keeping lease reason user)
    | _ => exact run _
  | issueGrant payload user =>
    exact moving_bind (issueCredentialGrant_moving distinct payload user) fun _ => (keeping_pure ()).moving
  | introspect payload =>
    exact moving_bind (introspectCredential_keeping hashToken payload).moving fun _ => (keeping_pure ()).moving
  | revokeGrant grantId reason user => exact (revokeCredentialGrant_keeping grantId reason user).moving
  | wait => exact moving_bind keeping_readClock.moving fun _ => (keeping_pure ()).moving

theorem credentialMachine_moves (distinct : Function.Injective fun tick => hashToken (runtime.secret tick))
    {allowed : CredentialStore → CredentialRequest → Prop} {first last : CredentialStore}
    (follows : (credentialMachine runtime hashToken).Follows allowed first last) : first.Moves runtime hashToken last := by
  apply follows.relates first.moves_self
  intro state request moves _
  exact CredentialStore.moves_trans _ _ _ moves (request.perform_moving distinct state)

theorem credentialMachine_sound (distinct : Function.Injective fun tick => hashToken (runtime.secret tick))
    {allowed : CredentialStore → CredentialRequest → Prop} {credentials : CredentialStore}
    (reachable : (credentialMachine runtime hashToken).Reachable allowed credentials) : credentials.Sound runtime hashToken := by
  obtain ⟨first, ⟨fresh, empty⟩, follows⟩ := reachable
  apply (credentialMachine_moves distinct follows).sound
  have none_ (grantId : String) : first.credentialGrants.get? grantId = none := by rw [empty]; rfl
  refine ⟨fresh_filed fresh, ?_, ?_, ?_⟩
  · intro grantId grant stored
    cases (none_ grantId).symm.trans stored
  · intro grantId grant stored
    cases (none_ grantId).symm.trans stored
  · intro grantId otherId grant other stored
    cases (none_ grantId).symm.trans stored

end Issue

section Answers

variable {runtime : Runtime} {hashToken : String → String} {credentials : CredentialStore}
variable {payload : CredentialIntrospectionRequest}

/-- The introspection of a token answers that it is active. -/
def CredentialStore.Accepts (runtime : Runtime) (hashToken : String → String) (credentials : CredentialStore)
    (payload : CredentialIntrospectionRequest) : Prop :=
  ∃ result, ((introspectCredential runtime hashToken payload).run credentials).1 = .ok result ∧ result.active = true

/-- A grant and its lease that bear a token out at the present time. -/
structure CredentialStore.Vouches (runtime : Runtime) (hashToken : String → String) (credentials : CredentialStore)
    (payload : CredentialIntrospectionRequest) (grant : CredentialGrant) (lease : CapabilityLease) : Prop where
  stored : credentials.credentialGrants.get? grant.id = some grant
  token : hashToken payload.bearerToken = grant.tokenHash
  held : credentials.store.capabilityLeases.get? grant.leaseId = some lease
  unrevoked : grant.revoked = false
  unexpired : runtime.clock credentials.store.ticks < grant.expiresAt
  active : lease.status = .active
  running : runtime.clock credentials.store.ticks < lease.expiresAt
  audience : grant.audience = payload.audience
  scope : ∀ item ∈ payload.requiredScope, item ∈ grant.scope

/-- The grant that the lookup of a token finds, if it has one. -/
theorem CredentialStore.Sound.lookup (sound : credentials.Sound runtime hashToken) {grant : CredentialGrant} :
    credentials.credentialGrants.values.find? (fun grant => hashToken payload.bearerToken == grant.tokenHash) = some grant ↔
      credentials.credentialGrants.get? grant.id = some grant ∧ hashToken payload.bearerToken = grant.tokenHash := by
  constructor
  · intro found
    obtain ⟨hashed, grantId, stored⟩ := Table.find?_values found
    rw [sound.named grantId grant stored]
    exact ⟨stored, beq_iff_eq.mp hashed⟩
  · rintro ⟨stored, hashed⟩
    cases search : credentials.credentialGrants.values.find? fun grant => hashToken payload.bearerToken == grant.tokenHash with
    | none =>
      have absent := List.find?_eq_none.mp search grant (Table.mem_values.mpr ⟨grant.id, stored⟩)
      exact absurd (beq_iff_eq.mpr hashed) absent
    | some other =>
      obtain ⟨also, otherId, present⟩ := Table.find?_values search
      -- one hash, one grant
      have same := sound.sole grant.id otherId grant other stored present (hashed.symm.trans (beq_iff_eq.mp also))
      rw [← same, stored] at present
      exact present.symm

theorem introspectionOf_active {now : Instant} {grant : CredentialGrant} :
    (introspectionOf credentials payload now grant).active = true ↔
      grant.revoked = false ∧ now < grant.expiresAt ∧
        (∃ lease, credentials.store.capabilityLeases.get? grant.leaseId = some lease ∧ lease.status = .active ∧
          now < lease.expiresAt) ∧
        grant.audience = payload.audience ∧ ∀ item ∈ payload.requiredScope, item ∈ grant.scope := by
  have missing : sortTexts (keepFirst (payload.requiredScope.filter fun item => !grant.scope.contains item)) = [] ↔
      ∀ item ∈ payload.requiredScope, item ∈ grant.scope := by
    rw [sortTexts_eq_nil, List.eq_nil_iff_forall_not_mem]
    simp [mem_keepFirst]
  have live : (credentials.store.capabilityLeases.get? grant.leaseId).any
      (fun lease => decide (lease.status = .active) && decide (now < lease.expiresAt)) = true ↔
      ∃ lease, credentials.store.capabilityLeases.get? grant.leaseId = some lease ∧ lease.status = .active ∧
        now < lease.expiresAt := by
    cases credentials.store.capabilityLeases.get? grant.leaseId <;> simp
  rw [← live, ← missing]
  unfold introspectionOf
  dsimp only
  split_ifs <;> simp_all [CredentialIntrospectionResult.inactive]

theorem introspectCredential_answer :
    ((introspectCredential runtime hashToken payload).run credentials).1 =
      .ok (((credentials.credentialGrants.values.find? fun grant => hashToken payload.bearerToken == grant.tokenHash).map
        (introspectionOf credentials payload (runtime.clock credentials.store.ticks))).getD
          (.inactive "Credential token is invalid.")) := by
  have ends : (introspectCredential runtime hashToken payload).Ends credentials fun outcome _ =>
      outcome = .ok (((credentials.credentialGrants.values.find? fun grant =>
        hashToken payload.bearerToken == grant.tokenHash).map
          (introspectionOf credentials payload (runtime.clock credentials.store.ticks))).getD
            (.inactive "Credential token is invalid.")) := by
    simp only [introspectCredential, ends_bind, ends_readClock, continue_ok, ends_state]
    split
    · rename_i search
      have same : (credentials.credentialGrants.values.find? fun grant =>
          hashToken payload.bearerToken == grant.tokenHash) = none := search
      rw [same]
      rfl
    · rename_i grant search
      have same : (credentials.credentialGrants.values.find? fun grant =>
          hashToken payload.bearerToken == grant.tokenHash) = some grant := search
      rw [same]
      rfl
  exact ends

/-- A token is accepted exactly where its grant and the lease of the grant bear it out. -/
theorem introspectCredential_accepts_iff (sound : credentials.Sound runtime hashToken) :
    credentials.Accepts runtime hashToken payload ↔ ∃ grant lease, credentials.Vouches runtime hashToken payload grant lease := by
  unfold CredentialStore.Accepts
  rw [introspectCredential_answer]
  constructor
  · rintro ⟨result, answered, active⟩
    cases search : credentials.credentialGrants.values.find? fun grant => hashToken payload.bearerToken == grant.tokenHash with
    | none =>
      rw [search] at answered
      cases answered
      cases active
    | some grant =>
      rw [search] at answered
      cases answered
      obtain ⟨stored, token⟩ := sound.lookup.mp search
      obtain ⟨unrevoked, unexpired, ⟨lease, held, live, running⟩, audience, scope⟩ := introspectionOf_active.mp active
      exact ⟨grant, lease, stored, token, held, unrevoked, unexpired, live, running, audience, scope⟩
  · rintro ⟨grant, lease, vouches⟩
    rw [sound.lookup.mpr ⟨vouches.stored, vouches.token⟩]
    refine ⟨_, rfl, introspectionOf_active.mpr ⟨vouches.unrevoked, vouches.unexpired, ?_, vouches.audience, vouches.scope⟩⟩
    exact ⟨lease, vouches.held, vouches.active, vouches.running⟩

end Answers

section Revocation

variable {runtime : Runtime} {hashToken : String → String} {credentials : CredentialStore}

/-- Work on the grants does not bring a dead lease back. -/
theorem dead_then {α : Type} {body : CredentialProcedure α} {leaseId : String} (filed : credentials.store.Filed)
    (dead : credentials.store.DeadLease leaseId) (keeping : Keeping body) :
    body.Ends credentials fun _ after => after.store.DeadLease leaseId :=
  (keeping credentials).store.dead filed leaseId dead

/-- A refreshed lease is the one in the store. -/
theorem refreshed_ends {leaseId : String} {lease : CapabilityLease} (filed : credentials.store.Filed)
    (stored : credentials.store.capabilityLeases.get? leaseId = some lease) :
    (inStore (refreshLeaseStatus runtime lease)).Ends credentials fun outcome after =>
      ∃ refreshed, outcome = .ok refreshed ∧ after.store.capabilityLeases.get? leaseId = some refreshed ∧ after.store.Filed := by
  apply ends_within.mpr
  apply (refreshLeaseStatus_effects .all filed stored).mono
  rintro _ after ⟨effects, refreshed, rfl, found, -⟩
  exact ⟨refreshed, rfl, found, effects_file (effects filed) filed⟩

/-- Work after which a lease is dead, and more work on the grants. -/
theorem dead_bind {α β : Type} {first : CredentialProcedure α} {next : α → CredentialProcedure β} {leaseId : String}
    (start : first.Ends credentials fun _ after => after.store.Filed ∧ after.store.DeadLease leaseId)
    (rest : ∀ value, Keeping (next value)) :
    (first >>= next).Ends credentials fun _ after => after.store.DeadLease leaseId :=
  Ends.bind start (fun value _ holds => dead_then holds.1 holds.2 (rest value)) fun _ _ holds => holds.2

theorem changeLease_dead {lease : CapabilityLease} {change : CapabilityLease → CapabilityLease}
    (filed : credentials.store.Filed) (stored : credentials.store.capabilityLeases.get? lease.id = some lease)
    (named : ∀ lease, (change lease).id = lease.id) (ends : ∀ lease, (change lease).status ≠ .active) :
    (inStore (changeLease lease.id change)).Ends credentials fun _ after =>
      after.store.Filed ∧ after.store.DeadLease lease.id := by
  refine ⟨(settling_changeLease lease.id named ends credentials.store).filed filed, change lease, ?_, ends lease⟩
  show (credentials.store.capabilityLeases.adjust lease.id change).get? lease.id = _
  rw [Table.get?_adjust, if_pos rfl, stored]
  rfl

/-- A lease that is revoked ends, if it has not ended before. -/
theorem revokeLeaseAndGrants_dead {leaseId : String} {lease : CapabilityLease} (filed : credentials.store.Filed)
    (stored : credentials.store.capabilityLeases.get? leaseId = some lease) (reason : String) (user : AuthUser) :
    (revokeLeaseAndGrants runtime lease reason user).Ends credentials fun _ after => after.store.DeadLease leaseId := by
  unfold revokeLeaseAndGrants
  apply Ends.bind (refreshed_ends filed stored)
  · -- the lease is looked at first; a look may end it
    rintro refreshed middle ⟨_, ⟨rfl⟩, found, still⟩
    obtain rfl := still.leases leaseId refreshed found
    rw [ends_ite]
    constructor
    · intro ended
      refine ⟨refreshed, found, ?_⟩
      intro active
      rw [active] at ended
      cases ended <;> contradiction
    · intro _
      rw [ends_bind, ends_demand]
      constructor
      · -- the lease is stored as revoked, and nothing afterwards makes it active again
        intro _
        simp only [continue_ok, ends_bind, ends_readClock]
        apply (ends_bind _ _ _).mp
        apply dead_bind
        · apply @changeLease_dead (Clocked.tick (Clocked.tick middle)) refreshed _ ⟨still.leases, still.actions⟩ found
          · exact fun _ => rfl
          · intro lease impossible
            cases impossible
        · intro _
          apply keeping_bind (revokeGrants_keeping refreshed.id)
          intro _
          exact keeping_bind (keeping_inStore settling_event) fun _ => keeping_inStore settling_persist
      · intro inactive
        exact ⟨refreshed, found, inactive⟩
  · rintro _ _ ⟨_, impossible, -⟩
    cases impossible

theorem leaseOr404_refreshed {leaseId : String} {lease : CapabilityLease} (filed : credentials.store.Filed)
    (stored : credentials.store.capabilityLeases.get? leaseId = some lease) :
    (inStore (leaseOr404 runtime leaseId)).Ends credentials fun outcome after =>
      ∃ refreshed, outcome = .ok refreshed ∧ after.store.capabilityLeases.get? leaseId = some refreshed ∧ after.store.Filed := by
  apply ends_within.mpr
  apply ends_read
  rw [ends_bind, stored, ends_found_some]
  exact ends_within.mp (refreshed_ends filed stored)

/-- The request to revoke a lease leaves it dead. -/
theorem request_revokes_lease {leaseId : String} {lease : CapabilityLease} (filed : credentials.store.Filed)
    (stored : credentials.store.capabilityLeases.get? leaseId = some lease) (reason : String) (user : AuthUser) :
    ((credentialMachine runtime hashToken).next credentials (.run (.revokeLease leaseId reason user))).store.DeadLease leaseId := by
  show ((CredentialRequest.run (.revokeLease leaseId reason user)).perform runtime hashToken).Ends credentials
    fun _ after => after.store.DeadLease leaseId
  unfold CredentialRequest.perform
  apply Ends.bind (leaseOr404_refreshed filed stored)
  · rintro refreshed middle ⟨_, ⟨rfl⟩, found, still⟩
    apply ends_relabel.mpr
    apply (revokeLeaseAndGrants_dead still found reason user).mono
    intro outcome after dead
    cases outcome <;> exact dead
  · rintro _ _ ⟨_, impossible, -⟩
    cases impossible

/-- Work on the grants that goes on after a grant was revoked. -/
theorem revoked_then {α : Type} {body : CredentialProcedure α} {grantId : String} {grant : CredentialGrant}
    (stored : credentials.credentialGrants.get? grantId = some grant) (revoked : grant.revoked = true) (keeping : Keeping body) :
    body.Ends credentials fun _ after => ∃ later, after.credentialGrants.get? grantId = some later ∧
      later.revoked = true ∧ later.tokenHash = grant.tokenHash := by
  obtain ⟨later, present, lasts⟩ := (keeping credentials).grants grantId grant stored
  exact ⟨later, present, lasts.revoked revoked, lasts.token⟩

/-- The request to revoke a grant leaves it revoked. -/
theorem request_revokes_grant {grantId : String} {grant : CredentialGrant}
    (stored : credentials.credentialGrants.get? grantId = some grant) (reason : String) (user : AuthUser) :
    ∃ later, ((credentialMachine runtime hashToken).next credentials (.revokeGrant grantId reason user)).credentialGrants.get?
      grantId = some later ∧ later.revoked = true ∧ later.tokenHash = grant.tokenHash := by
  show (revokeCredentialGrant runtime grantId reason user).Ends credentials fun _ after =>
    ∃ later, after.credentialGrants.get? grantId = some later ∧ later.revoked = true ∧ later.tokenHash = grant.tokenHash
  unfold revokeCredentialGrant
  simp only [ends_bind, ends_state, continue_ok, stored, ends_found_some, ends_ite, ends_pure, ends_readClock]
  constructor
  · intro revoked
    exact ⟨grant, rfl, revoked, rfl⟩
  · intro _
    simp only [changeGrant, ends_modify, continue_ok]
    have there (revokedAt : Instant) (metadata : List (String × Document)) :
        (credentials.credentialGrants.adjust grantId (.revokedWith revokedAt metadata)).get? grantId =
          some (grant.revokedWith revokedAt metadata) := by
      rw [Table.get?_adjust, if_pos rfl, stored]
      rfl
    apply @revoked_then ⟨_, _⟩ _ _ _ _ (there _ _) rfl
    apply keeping_bind (keeping_inStore settling_event)
    exact fun _ => keeping_inStore settling_persist

/-- The tokens of a dead lease are refused. -/
theorem refuses_dead {leaseId : String} {grant : CredentialGrant} {payload : CredentialIntrospectionRequest}
    (sound : credentials.Sound runtime hashToken) (dead : credentials.store.DeadLease leaseId)
    (stored : credentials.credentialGrants.get? grant.id = some grant) (leased : grant.leaseId = leaseId)
    (token : hashToken payload.bearerToken = grant.tokenHash) : ¬ credentials.Accepts runtime hashToken payload := by
  rw [introspectCredential_accepts_iff sound]
  rintro ⟨other, lease, vouches⟩
  have same := sound.sole grant.id other.id grant other stored vouches.stored (token.symm.trans vouches.token)
  have found := vouches.stored
  rw [← same, stored] at found
  obtain rfl := Option.some.inj found
  obtain ⟨ended, kept, inactive⟩ := dead
  have held := vouches.held
  rw [leased, kept] at held
  obtain rfl := Option.some.inj held
  exact inactive vouches.active

/-- The token of a revoked grant is refused. -/
theorem refuses_revoked {grant : CredentialGrant} {payload : CredentialIntrospectionRequest}
    (sound : credentials.Sound runtime hashToken) (stored : credentials.credentialGrants.get? grant.id = some grant)
    (revoked : grant.revoked = true) (token : hashToken payload.bearerToken = grant.tokenHash) :
    ¬ credentials.Accepts runtime hashToken payload := by
  rw [introspectCredential_accepts_iff sound]
  rintro ⟨other, lease, vouches⟩
  have same := sound.sole grant.id other.id grant other stored vouches.stored (token.symm.trans vouches.token)
  have found := vouches.stored
  rw [← same, stored] at found
  obtain rfl := Option.some.inj found
  rw [vouches.unrevoked] at revoked
  cases revoked

end Revocation

section Sample

theorem plain_secrets (trustEnforcement : Bool) : Function.Injective (Runtime.plain trustEnforcement).secret := by
  intro first second same
  have digits : Nat.toDigits 10 first = Nat.toDigits 10 second := by
    apply String.ofList_inj.mp
    exact String.append_right_inj _ |>.mp same
  have read (number : Nat) : Nat.ofDigitChars 10 (Nat.toDigits 10 number) 0 = number :=
    Nat.ofDigitChars_toDigits (by decide) (Nat.le_refl 10)
  rw [← read first, digits, read]

/-- The approved store, with one lease and one token on it. -/
def grantedStore : CredentialStore :=
  (credentialMachine (.plain true) id).runAll ⟨approvedStore (.plain true), .empty⟩
    [.run (.issueLease (leaseRequest .bounded) sampleOwner),
      .issueGrant ⟨"lease_", .internalCapabilityToken, "deploy", "agent", ["read"], 60⟩ sampleOwner]

def sampleToken : CredentialIntrospectionRequest := ⟨"secret_6", "deploy", ["read"]⟩

end Sample

end ControlTower
