import Mathlib.Logic.Relation
import ControlTower.Access.Routes

/-! What the access routes do to the users and the invites, one effect at a time. A
request is a chain of these effects, and what each effect keeps is kept by all. -/

set_option autoImplicit false

namespace ControlTower

open Foundation
open Foundation.Procedure
open Relation (ReflTransGen)

/-- The store at a later count of clock readings. -/
def AccessStore.atTick (store : AccessStore) (ticks : Nat) : AccessStore := { store with ticks }

/-- Nobody has this address in another case. -/
def AccessStore.Unclaimed (runtime : AccessRuntime) (store : AccessStore) (email : String) : Prop :=
  ∀ user ∈ store.users.values, runtime.lower user.email ≠ email

/-- An invite was past its end at a reading of the clock before a count. -/
def Invite.PastBy (runtime : AccessRuntime) (invite : Invite) (ticks : Nat) : Prop :=
  ∃ tick, tick < ticks ∧ invite.expiresAt ≤ runtime.clock tick

/-- An invite was not yet past its end at a reading of the clock since a count. -/
def Invite.OpenSince (runtime : AccessRuntime) (invite : Invite) (since ticks : Nat) : Prop :=
  ∃ tick, since ≤ tick ∧ tick < ticks ∧ runtime.clock tick < invite.expiresAt

/-- An effect since a count of clock readings; users are disabled only where that is allowed. -/
inductive AccessEffect (runtime : AccessRuntime) (since : Nat) (disables : AccessStore → User → Prop)
    (before after : AccessStore) : Prop where
  | tick (ticks : Nat) (later : before.ticks ≤ ticks) (same : after = before.atTick ticks)
  | expire (inviteId : String) (invite : Invite) (updatedAt : Invite → Instant)
      (stored : before.invites.get? inviteId = some invite) (pending : invite.status = .pending)
      (past : invite.PastBy runtime before.ticks)
      (same : after = before.changeInvite inviteId fun held =>
        { held with status := .expired, updatedAt := updatedAt held })
  | close (inviteId : String) (invite : Invite) (status : InviteStatus) (accepts : Option String → Option String)
      (updatedAt : Instant) (stored : before.invites.get? inviteId = some invite) (pending : invite.status = .pending)
      (closes : status = .accepted ∨ status = .revoked) (opened : invite.OpenSince runtime since before.ticks)
      (same : after = before.changeInvite inviteId fun held =>
        { held with status, acceptedByUserId := accepts held.acceptedByUserId, updatedAt })
  | invite (invite : Invite) (fresh : invite.id ∉ before.invites.keys) (pending : invite.status = .pending)
      (sole : ∀ other ∈ before.invites.values, other.email = invite.email → other.status = .pending →
        other.PastBy runtime before.ticks)
      (same : after = { before with invites := before.invites.set invite.id invite })
  | enroll (user : User) (email : String) (fresh : user.id ∉ before.users.keys)
      (normalized : user.email = Text.strip (runtime.lower email))
      (unclaimed : before.Unclaimed runtime user.email) (enabled : user.disabled = false)
      (first : before.users.values = [] → user.role = .owner)
      (same : after = { before with users := before.users.set user.id user })
  | touch (userId : String) (change : User → User)
      (keeps : ∀ user, (change user).id = user.id ∧ (change user).email = user.email ∧ (change user).role = user.role ∧
        (change user).disabled = user.disabled)
      (same : after = before.changeUser userId change)
  | role (userId : String) (target : User) (role : UserRole) (updatedAt : Instant)
      (stored : before.users.get? userId = some target)
      (guarded : target.role = .owner → role ≠ .owner → 2 ≤ before.activeOwnerCount)
      (same : after = before.changeUser userId fun held => { held with role, updatedAt })
  | disable (userId : String) (target : User) (updatedAt : Instant) (revoke : SessionToken → SessionToken)
      (stored : before.users.get? userId = some target) (gone : disables before target)
      (same : after =
        { before with
          sessions := before.sessions.mapValues fun _ => revoke
          users := before.users.adjust userId fun held => { held with disabled := true, updatedAt } })

abbrev AccessEffects (runtime : AccessRuntime) (since : Nat) (disables : AccessStore → User → Prop) :
    AccessStore → AccessStore → Prop :=
  ReflTransGen (AccessEffect runtime since disables)

section Statuses

variable {runtime : AccessRuntime} {store : AccessStore}

/-- The effective status of an invite, with the reading of the clock that it rests on. -/
inductive Effective (runtime : AccessRuntime) (invite : Invite) (since ticks : Nat) : InviteStatus → Prop where
  | closed (settled : invite.status ≠ .pending) : Effective runtime invite since ticks invite.status
  | past (pending : invite.status = .pending) (past : invite.PastBy runtime ticks) :
      Effective runtime invite since ticks .expired
  | opened (pending : invite.status = .pending) (opened : invite.OpenSince runtime since ticks) :
      Effective runtime invite since ticks .pending

theorem effectiveInviteStatus_ends (invite : Invite) :
    (effectiveInviteStatus runtime invite).Ends store fun outcome after => ∃ status ticks, store.ticks ≤ ticks ∧
      outcome = .ok status ∧ after = store.atTick ticks ∧ Effective runtime invite store.ticks ticks status := by
  unfold effectiveInviteStatus
  rw [ends_ite]
  constructor
  · intro pending
    simp only [ends_bind, ends_readClock, continue_ok, ends_pure]
    refine ⟨_, store.ticks + 1, Nat.le_succ _, rfl, rfl, ?_⟩
    by_cases past : invite.expiresAt ≤ runtime.clock store.ticks
    · rw [if_pos (show invite.expiresAt ≤ runtime.clock (Clocked.ticks store) from past)]
      exact .past pending ⟨store.ticks, Nat.lt_succ_self _, past⟩
    · rw [if_neg (show ¬ invite.expiresAt ≤ runtime.clock (Clocked.ticks store) from past)]
      exact .opened pending ⟨store.ticks, Nat.le_refl _, Nat.lt_succ_self _, Nat.lt_of_not_le past⟩
  · intro settled
    exact ⟨invite.status, store.ticks, Nat.le_refl _, rfl, rfl, .closed settled⟩

theorem settleInvite_ends (invite : Invite) :
    (settleInvite runtime invite).Ends store fun outcome after => ∃ status ticks, store.ticks ≤ ticks ∧
      outcome = .ok { invite with status } ∧
      after = (store.atTick ticks).changeInvite invite.id (fun held => { held with status }) ∧
      Effective runtime invite store.ticks ticks status := by
  unfold settleInvite
  apply Ends.bind (effectiveInviteStatus_ends invite)
  · rintro status _ ⟨_, ticks, later, same, rfl, effective⟩
    cases same
    exact ⟨status, ticks, later, rfl, rfl, effective⟩
  · rintro error after ⟨_, _, _, impossible, -⟩
    cases impossible

/-- The invites of an address are all past their end, or the address has a pending one. -/
theorem ensureNoPendingInvite_ends (email : String) (invites : List Invite) :
    (ensureNoPendingInvite runtime email invites).Ends store fun outcome after => ∃ ticks, store.ticks ≤ ticks ∧
      after = store.atTick ticks ∧ ∀ value, outcome = .ok value → ∀ invite ∈ invites, invite.email = email →
        invite.status = .pending → invite.PastBy runtime ticks := by
  induction invites generalizing store with
  | nil => exact ⟨store.ticks, Nat.le_refl _, rfl, fun _ _ _ member => nomatch member⟩
  | cons invite rest ih =>
    unfold ensureNoPendingInvite
    rw [ends_ite]
    constructor
    · intro here
      apply Ends.bind (effectiveInviteStatus_ends invite)
      · rintro status _ ⟨_, ticks, later, same, rfl, effective⟩
        cases same
        apply ends_guard
        · refine ⟨ticks, later, rfl, ?_⟩
          intro value impossible
          cases impossible
        -- an invite of the address whose effective status is not pending has ended, now or before
        intro settled
        refine ih.mono ?_
        rintro outcome _ ⟨last, further, rfl, ends⟩
        refine ⟨last, Nat.le_trans later further, rfl, ?_⟩
        intro value passed other member named pending
        rcases List.mem_cons.mp member with rfl | after
        · cases effective with
          | closed closed => exact (closed pending).elim
          | past _ past =>
            obtain ⟨tick, before, ended⟩ := past
            exact ⟨tick, Nat.lt_of_lt_of_le before further, ended⟩
          | opened => exact (settled rfl).elim
        · exact ends value passed other after named pending
      · rintro error after ⟨_, _, _, impossible, -⟩
        cases impossible
    · intro elsewhere
      refine ih.mono ?_
      -- an invite of another address is passed over without a look at the clock
      rintro outcome after ⟨ticks, later, same, ends⟩
      refine ⟨ticks, later, same, ?_⟩
      intro value passed other member named pending
      rcases List.mem_cons.mp member with rfl | there
      · exact (elsewhere named).elim
      · exact ends value passed other there named pending

end Statuses

section Registrations

variable {runtime : AccessRuntime} {store after : AccessStore}

/-- Invites and users are stored under their own identifiers. -/
structure AccessStore.Filed (store : AccessStore) : Prop where
  invites : ∀ inviteId invite, store.invites.get? inviteId = some invite → invite.id = inviteId
  users : ∀ userId user, store.users.get? userId = some user → user.id = userId

/-- Nothing but time has passed, or an invite that was past its end is marked so. -/
inductive Lapses (runtime : AccessRuntime) (store after : AccessStore) : Prop where
  | waits (ticks : Nat) (later : store.ticks ≤ ticks) (same : after = store.atTick ticks)
  | expires (ticks : Nat) (later : store.ticks ≤ ticks) (inviteId : String) (invite : Invite)
      (stored : store.invites.get? inviteId = some invite) (pending : invite.status = .pending)
      (past : invite.PastBy runtime ticks)
      (same : after = (store.atTick ticks).changeInvite inviteId fun held => { held with status := .expired })

/-- A settled invite is closed and left alone, past its end and marked so, or open and left alone. -/
theorem settle_cases (filed : store.Filed) {inviteId : String} {invite : Invite}
    (stored : store.invites.get? inviteId = some invite) {status : InviteStatus} {ticks : Nat}
    (later : store.ticks ≤ ticks) (effective : Effective runtime invite store.ticks ticks status) :
    Lapses runtime store ((store.atTick ticks).changeInvite invite.id fun held => { held with status }) ∧
      (status = invite.status → (store.atTick ticks).changeInvite invite.id (fun held => { held with status }) =
        store.atTick ticks) := by
  have named : store.invites.get? invite.id = some invite := by
    rw [filed.invites _ _ stored]
    exact stored
  have unchanged : status = invite.status →
      (store.atTick ticks).changeInvite invite.id (fun held => { held with status }) = store.atTick ticks := by
    intro same
    subst same
    have kept : store.invites.adjust invite.id (fun held => { held with status := invite.status }) = store.invites :=
      Table.adjust_unchanged named rfl
    unfold AccessStore.changeInvite AccessStore.atTick
    dsimp only
    rw [kept]
  refine ⟨?_, unchanged⟩
  cases effective with
  | closed settled => exact .waits ticks later (unchanged rfl)
  | past pending past => exact .expires ticks later invite.id invite named pending past rfl
  | opened pending opened => exact .waits ticks later (unchanged pending.symm)

theorem validateInviteToken_ends (filed : store.Filed) (token : String) :
    (validateInviteToken runtime token).Ends store fun outcome after =>
      ((∃ error, outcome = .error error) ∧ Lapses runtime store after) ∨
        ∃ invite ticks, store.invites.values.find? (fun item => item.tokenHash == runtime.tokenHash token) = some invite ∧
          store.ticks ≤ ticks ∧ outcome = .ok invite ∧ after = store.atTick ticks ∧ invite.status = .pending ∧
          invite.OpenSince runtime store.ticks ticks := by
  unfold validateInviteToken
  apply ends_read
  apply ends_lookup
  · exact .inl ⟨⟨_, rfl⟩, .waits store.ticks (Nat.le_refl _) rfl⟩
  intro invite found
  obtain ⟨-, inviteId, stored⟩ := Table.find?_values found
  apply Ends.bind (settleInvite_ends invite)
  · rintro settled _ ⟨status, ticks, later, same, rfl, effective⟩
    cases same
    -- settling the invite may mark it expired, and that is all
    obtain ⟨lapses, unchanged⟩ := settle_cases filed stored later effective
    apply ends_gate
    · intro _
      exact .inl ⟨⟨_, rfl⟩, lapses⟩
    · intro now
      rw [ends_pure]
      cases effective with
      | opened pending opened =>
        have held : { invite with status := .pending } = invite := by rw [← pending]
        exact .inr ⟨invite, ticks, found, later, by rw [held], unchanged pending.symm, pending, opened⟩
      | closed settled => exact (settled now).elim
      | past => cases now
  · rintro error after ⟨_, _, _, impossible, -⟩
    cases impossible

/-- A user that was created. -/
structure Enrolls (runtime : AccessRuntime) (store : AccessStore) (email : String) (role : Option UserRole) (user : User) :
    Prop where
  fresh : user.id ∉ store.users.keys
  email : user.email = Text.strip (runtime.lower email)
  role : user.role = role.getD (defaultRoleForNewUser store)
  enabled : user.disabled = false
  unclaimed : store.Unclaimed runtime user.email

theorem createUser_ends (email displayName : String) (role : Option UserRole) (emailVerified : Bool) :
    (createUser runtime email displayName role emailVerified).Ends store fun outcome after =>
      ((∃ error, outcome = .error error) ∧ after = store) ∨
        ∃ user ticks, store.ticks ≤ ticks ∧ outcome = .ok user ∧ Enrolls runtime store email role user ∧
          after = { store.atTick ticks with users := store.users.set user.id user } := by
  unfold createUser
  apply ends_read
  apply ends_gate
  · intro _
    exact .inl ⟨⟨_, rfl⟩, rfl⟩
  intro unclaimed
  simp only [ends_bind, ends_readClock, continue_ok, ends_update]
  exact .inr ⟨_, store.ticks + 2, Nat.le_add_right _ 2, rfl, ⟨runtime.newId_fresh _ _, rfl, rfl, rfl, unclaimed⟩, rfl⟩

/-- The user of a response keeps the fields that identify it and grant it rights. -/
def SameAccount (before after : User) : Prop :=
  after.id = before.id ∧ after.email = before.email ∧ after.role = before.role ∧ after.disabled = before.disabled

theorem createRegistrationResponse_ends (user : User) :
    (createRegistrationResponse runtime user).Ends store fun outcome after =>
      outcome = .ok ⟨user.id, user.email, user.role⟩ ∧ ∃ ticks change, store.ticks ≤ ticks ∧
        (∀ held, SameAccount held (change held)) ∧ after = (store.atTick ticks).changeUser user.id change := by
  unfold createRegistrationResponse
  simp only [ends_bind, ends_readClock, continue_ok, ends_modify, ends_pure]
  refine ⟨trivial, store.ticks + 1, _, Nat.le_succ _, ?_, rfl⟩
  intro held
  exact ⟨rfl, rfl, rfl, rfl⟩

/-- What a registration with an invite comes to: the invite that the token names was
pending and open, a user with its address and role was added, and it is closed. -/
structure RegistersWith (runtime : AccessRuntime) (store : AccessStore) (email token : String) (invite : Invite) (user : User)
    (answer : AuthUser) (after : AccessStore) : Prop where
  named : store.invites.values.find? (fun item => item.tokenHash == runtime.tokenHash token) = some invite
  pending : invite.status = .pending
  opened : invite.OpenSince runtime store.ticks after.ticks
  addressed : invite.email = normalizeEmail runtime email
  enrolls : Enrolls runtime store email (some invite.role) user
  answered : answer = ⟨user.id, user.email, user.role⟩
  written : ∃ ticks updatedAt change, store.ticks ≤ ticks ∧ (∀ held, SameAccount held (change held)) ∧
    after = (({ store.atTick ticks with users := store.users.set user.id user } : AccessStore).changeInvite invite.id
      fun held => { held with status := .accepted, acceptedByUserId := some user.id, updatedAt }).changeUser user.id change

theorem validateRegistrationPayload_ends (resolves : String → Bool) (payload : RegisterRequest) :
    (validateRegistrationPayload runtime resolves payload).Ends store fun _ after => after = store := by
  unfold validateRegistrationPayload
  cases (emailFailure runtime resolves payload.email).or (passwordFailure runtime payload.password payload.email) with
  | none => exact rfl
  | some failure => exact rfl

theorem registerWithInvite_ends (filed : store.Filed) (resolves : String → Bool) (payload : RegisterRequest) :
    (registerWithInvite runtime resolves payload).Ends store fun outcome after =>
      ((∃ error, outcome = .error error) ∧ Lapses runtime store after) ∨
        ∃ invite user answer, outcome = .ok answer ∧
          RegistersWith runtime store payload.email (payload.inviteToken.getD "") invite user answer after := by
  unfold registerWithInvite
  apply Ends.bind (validateRegistrationPayload_ends resolves payload)
  · rintro _ _ rfl
    apply Ends.bind (validateInviteToken_ends filed (payload.inviteToken.getD ""))
    · -- the invite was pending when it was settled; the readings that follow come later
      rintro invite _ (⟨⟨_, impossible⟩, -⟩ | ⟨_, ticks, named, later, same, rfl, pending, opened⟩)
      · cases impossible
      cases same
      apply ends_gate
      · intro _
        exact .inl ⟨⟨_, rfl⟩, .waits ticks later rfl⟩
      intro addressed
      apply Ends.bind (createUser_ends payload.email payload.displayName (some invite.role) false)
      · rintro user _ (⟨⟨_, impossible⟩, -⟩ | ⟨_, moment, since, same, enrolls, rfl⟩)
        · cases impossible
        cases same
        simp only [ends_bind, ends_readClock, continue_ok, ends_modify]
        refine (createRegistrationResponse_ends user).mono ?_
        rintro outcome after ⟨answered, last, change, further, keeps, rfl⟩
        obtain ⟨tick, first, before, earlier⟩ := opened
        have end_ : ticks ≤ last := Nat.le_trans since (Nat.le_trans (Nat.le_succ _) further)
        -- every reading of the registration lies between its first and its last
        refine .inr ⟨invite, user, _, answered, named, pending, ⟨tick, first, ?_, earlier⟩, addressed,
          ⟨enrolls.fresh, enrolls.email, enrolls.role, enrolls.enabled, enrolls.unclaimed⟩, rfl, last, _, change, Nat.le_trans later end_, keeps, rfl⟩
        exact Nat.lt_of_lt_of_le before end_
      · rintro error _ (⟨-, rfl⟩ | ⟨_, _, _, impossible, -⟩)
        · exact .inl ⟨⟨_, rfl⟩, .waits ticks later rfl⟩
        · cases impossible
    · rintro error after (⟨-, lapses⟩ | ⟨_, _, _, _, impossible, -⟩)
      · exact .inl ⟨⟨_, rfl⟩, lapses⟩
      · cases impossible
  · rintro error _ rfl
    exact .inl ⟨⟨_, rfl⟩, .waits _ (Nat.le_refl _) rfl⟩

end Registrations

section Issuing

variable {runtime : AccessRuntime} {store : AccessStore}

/-- An invite that was made, with the token that names it. -/
structure IssuesInvite (runtime : AccessRuntime) (store : AccessStore) (payload : InviteCreateRequest) (invite : Invite)
    (token : String) (after : AccessStore) : Prop where
  fresh : invite.id ∉ store.invites.keys
  hashed : invite.tokenHash = runtime.tokenHash token
  email : invite.email = normalizeEmail runtime payload.email
  role : invite.role = payload.role
  pending : invite.status = .pending
  written : ∃ ticks moment, store.ticks ≤ ticks ∧ ticks ≤ moment ∧
    (∀ other ∈ store.invites.values, other.email = invite.email → other.status = .pending →
      other.PastBy runtime ticks) ∧
    after = ({ store.atTick ticks with invites := store.invites.set invite.id invite } : AccessStore).atTick moment

theorem publicInvite_ends (invite : Invite) :
    (publicInvite runtime invite).Ends store fun outcome after => ∃ status ticks, store.ticks ≤ ticks ∧
      outcome = .ok { invite with status } ∧ after = store.atTick ticks := by
  unfold publicInvite
  apply Ends.bind (effectiveInviteStatus_ends invite)
  · rintro status _ ⟨_, ticks, later, same, rfl, -⟩
    cases same
    exact ⟨status, ticks, later, rfl, rfl⟩
  · rintro error after ⟨_, _, _, impossible, -⟩
    cases impossible

theorem createInvite_ends (payload : InviteCreateRequest) (actor : AuthUser) :
    (createInvite runtime payload actor).Ends store fun outcome after =>
      ((∃ error, outcome = .error error) ∧ ∃ ticks, store.ticks ≤ ticks ∧ after = store.atTick ticks) ∨
        ∃ invite status token, outcome = .ok ({ invite with status }, token) ∧ IssuesInvite runtime store payload invite token after := by
  unfold createInvite
  apply ends_read
  apply Ends.bind (ensureNoPendingInvite_ends (normalizeEmail runtime payload.email) store.invites.values)
  · rintro ⟨⟩ _ ⟨ticks, later, rfl, ends⟩
    simp only [ends_bind, ends_drawSecret, ends_readClock, continue_ok, ends_update]
    refine (publicInvite_ends _).mono ?_
    rintro outcome after ⟨status, moment, further, rfl, rfl⟩
    refine .inr ⟨_, status, _, rfl, runtime.newId_fresh _ _, rfl, rfl, rfl, rfl, ticks + 4, moment,
      Nat.le_trans later (Nat.le_add_right _ 4), further, ?_, rfl⟩
    intro other member named pending
    obtain ⟨tick, before, past⟩ := ends () rfl other member named pending
    exact ⟨tick, Nat.lt_of_lt_of_le before (Nat.le_add_right _ 4), past⟩
  · rintro error _ ⟨ticks, later, rfl, -⟩
    exact .inl ⟨⟨_, rfl⟩, ticks, later, rfl⟩

end Issuing

section Chains

variable {runtime : AccessRuntime} {since : Nat} {disables : AccessStore → User → Prop} {store after : AccessStore}

theorem tick_effects {ticks : Nat} (later : store.ticks ≤ ticks) :
    AccessEffects runtime since disables store (store.atTick ticks) := .single (.tick ticks later rfl)

theorem Lapses.effects (lapses : Lapses runtime store after) : AccessEffects runtime since disables store after := by
  cases lapses with
  | waits ticks later same =>
    subst same
    exact tick_effects later
  | expires ticks later inviteId invite stored pending past same =>
    subst same
    exact .tail (tick_effects later) (.expire inviteId invite (·.updatedAt) stored pending past rfl)

theorem Invite.OpenSince.wider {invite : Invite} {from_ ticks last : Nat} (opened : invite.OpenSince runtime from_ ticks)
    (earlier : since ≤ from_) (later : ticks ≤ last) : invite.OpenSince runtime since last := by
  obtain ⟨tick, first, before, open_⟩ := opened
  exact ⟨tick, Nat.le_trans earlier first, Nat.lt_of_lt_of_le before later, open_⟩

theorem RegistersWith.effects (filed : store.Filed) (started : since ≤ store.ticks) (peopled : store.users.values ≠ [])
    {email token : String} {invite : Invite}
    {user : User} {answer : AuthUser} (registers : RegistersWith runtime store email token invite user answer after) :
    AccessEffects runtime since disables store after := by
  obtain ⟨ticks, updatedAt, change, later, keeps, same⟩ := registers.written
  have opened := registers.opened
  subst same
  obtain ⟨-, inviteId, stored⟩ := Table.find?_values registers.named
  have named := filed.invites _ _ stored
  subst named
  have enrolled : AccessEffects runtime since disables store
      { store.atTick ticks with users := store.users.set user.id user } := by
    apply ReflTransGen.tail (tick_effects later)
    refine .enroll user email registers.enrolls.fresh registers.enrolls.email registers.enrolls.unclaimed
      registers.enrolls.enabled ?_ rfl
    intro deserted
    exact (peopled deserted).elim
  apply ReflTransGen.tail (enrolled.tail _) (.touch user.id change keeps rfl)
  exact .close invite.id invite .accepted (fun _ => some user.id) updatedAt stored registers.pending (.inl rfl)
    (opened.wider started (Nat.le_refl _)) rfl

theorem registerBootstrap_effects (deserted : store.users.values = []) (payload : RegisterRequest) :
    (registerBootstrap runtime payload).Ends store fun _ after => AccessEffects runtime since disables store after := by
  unfold registerBootstrap
  apply Ends.bind (createUser_ends payload.email payload.displayName none false)
  · rintro user _ (⟨⟨_, impossible⟩, -⟩ | ⟨_, ticks, later, same, enrolls, rfl⟩)
    · cases impossible
    cases same
    refine (createRegistrationResponse_ends user).mono ?_
    rintro outcome after ⟨-, last, change, further, keeps, rfl⟩
    have owner : user.role = .owner := by
      rw [enrolls.role]
      unfold defaultRoleForNewUser
      rw [if_pos deserted]
      rfl
    have enrolled : AccessEffects runtime since disables store
        { store.atTick ticks with users := store.users.set user.id user } :=
      (tick_effects later).tail
        (.enroll user payload.email enrolls.fresh enrolls.email enrolls.unclaimed enrolls.enabled (fun _ => owner) rfl)
    exact (enrolled.tail (.tick last further rfl)).tail (.touch user.id change keeps rfl)
  · rintro error _ (⟨-, rfl⟩ | ⟨_, _, _, impossible, -⟩)
    · exact .refl
    · cases impossible

theorem register_effects (filed : store.Filed) (started : since ≤ store.ticks) (resolves : String → Bool)
    (payload : RegisterRequest) :
    (register runtime resolves payload).Ends store fun _ after => AccessEffects runtime since disables store after := by
  unfold register
  apply Ends.bind (validateRegistrationPayload_ends resolves payload)
  · rintro _ _ rfl
    apply ends_read
    rw [ends_ite]
    constructor
    · intro deserted
      exact registerBootstrap_effects deserted payload
    · intro peopled
      apply ends_guard
      · exact .refl
      intro _
      refine (registerWithInvite_ends filed resolves payload).mono ?_
      rintro outcome after (⟨-, lapses⟩ | ⟨invite, user, answer, -, registers⟩)
      · exact lapses.effects
      · exact registers.effects filed started peopled
  · rintro error _ rfl
    exact .refl

theorem createInvite_effects (payload : InviteCreateRequest) (actor : AuthUser) :
    (createInvite runtime payload actor).Ends store fun _ after => AccessEffects runtime since disables store after := by
  refine (createInvite_ends payload actor).mono ?_
  rintro outcome _ (⟨-, ticks, later, rfl⟩ | ⟨invite, status, token, -, issues⟩)
  · exact tick_effects later
  · obtain ⟨ticks, moment, later, further, sole, rfl⟩ := issues.written
    have made : AccessEffects runtime since disables store
        { store.atTick ticks with invites := store.invites.set invite.id invite } :=
      (tick_effects later).tail (.invite invite issues.fresh issues.pending sole rfl)
    exact made.tail (.tick moment further rfl)

/-- The loop writes each invite once, and finds it as it was read. -/
theorem refreshInvites_effects (invites : List Invite) (distinct : (invites.map (·.id)).Nodup)
    (stored : ∀ invite ∈ invites, store.invites.get? invite.id = some invite) :
    (refreshInvites runtime invites).Ends store fun _ after => AccessEffects runtime since disables store after := by
  induction invites generalizing store with
  | nil => exact .refl
  | cons invite rest ih =>
    rw [List.map_cons, List.nodup_cons] at distinct
    have here := stored invite List.mem_cons_self
    have others : ∀ other ∈ rest, store.invites.get? other.id = some other :=
      fun other member => stored other (List.mem_cons_of_mem _ member)
    unfold refreshInvites
    apply Ends.bind (effectiveInviteStatus_ends invite)
    · rintro status _ ⟨_, ticks, later, same, rfl, effective⟩
      cases same
      rw [ends_ite]
      constructor
      · -- the status is the stored one, so nothing is written
        intro _
        have remaining : (refreshInvites runtime rest).Ends (store.atTick ticks) _ := ih distinct.2 others
        refine remaining.mono ?_
        intro outcome after chain
        exact (tick_effects later).trans chain
      · intro changes
        simp only [ends_bind, ends_readClock, continue_ok, ends_modify]
        cases effective with
        | closed => exact (changes rfl).elim
        | opened pending => exact (changes pending).elim
        -- a pending invite past its end is marked, and the invites behind it stay as they are
        | past pending past =>
          have marked : AccessEffects runtime since disables store
              ((store.atTick ticks).changeInvite invite.id fun held =>
                { held with status := .expired, updatedAt := runtime.clock (store.atTick ticks).ticks }) :=
            (tick_effects later).tail (.expire invite.id invite _ here pending past rfl)
          have moved := marked.tail (.tick (ticks + 1) (Nat.le_succ _) rfl)
          refine (ih distinct.2 ?_).mono fun outcome after chain => moved.trans chain
          intro other member
          have elsewhere : other.id ≠ invite.id := by
            intro same
            exact distinct.1 (same ▸ List.mem_map_of_mem member)
          show (store.invites.adjust invite.id _).get? other.id = some other
          rw [Table.get?_adjust, if_neg elsewhere]
          exact others other member
    · rintro error after ⟨_, _, _, impossible, -⟩
      cases impossible

theorem publicInvites_ends (invites : List Invite) :
    (publicInvites runtime invites).Ends store fun _ after => ∃ ticks, store.ticks ≤ ticks ∧ after = store.atTick ticks := by
  induction invites generalizing store with
  | nil => exact ⟨store.ticks, Nat.le_refl _, rfl⟩
  | cons invite rest ih =>
    unfold publicInvites
    apply Ends.bind (publicInvite_ends invite)
    · rintro shown _ ⟨status, ticks, later, -, rfl⟩
      apply Ends.bind ih
      · rintro others _ ⟨last, further, rfl⟩
        exact ⟨last, Nat.le_trans later further, rfl⟩
      · rintro error _ ⟨last, further, rfl⟩
        exact ⟨last, Nat.le_trans later further, rfl⟩
    · rintro error _ ⟨status, ticks, later, -, rfl⟩
      exact ⟨ticks, later, rfl⟩

theorem AccessStore.Filed.inviteIds (filed : store.Filed) : store.invites.values.map (·.id) = store.invites.keys := by
  unfold Table.values Table.keys
  rw [List.map_map]
  apply List.map_congr_left
  intro row member
  exact filed.invites row.1 row.2 (Table.get?_eq_some.mpr member)

theorem listInvites_effects (filed : store.Filed) :
    (listInvites runtime).Ends store fun _ after => AccessEffects runtime since disables store after := by
  unfold listInvites
  apply ends_read
  have distinct : (store.invites.values.map (·.id)).Nodup := by
    rw [filed.inviteIds]
    exact store.invites.distinct
  have stored : ∀ invite ∈ store.invites.values, store.invites.get? invite.id = some invite := by
    intro invite member
    obtain ⟨inviteId, found⟩ := Table.mem_values.mp member
    rw [filed.invites _ _ found]
    exact found
  apply Ends.bind (refreshInvites_effects store.invites.values distinct stored)
  · intro _ middle chain
    apply ends_read
    refine (publicInvites_ends _).mono ?_
    rintro outcome _ ⟨ticks, later, rfl⟩
    exact chain.trans (tick_effects later)
  · intro error middle chain
    exact chain

theorem revokeInvite_effects (filed : store.Filed) (started : since ≤ store.ticks) (inviteId : String) :
    (revokeInvite runtime inviteId).Ends store fun _ after => AccessEffects runtime since disables store after := by
  unfold revokeInvite
  apply ends_read
  apply ends_lookup
  · exact .refl
  intro invite stored
  apply Ends.bind (settleInvite_ends invite)
  · rintro settled _ ⟨status, ticks, later, same, rfl, effective⟩
    cases same
    -- settling the invite may mark it expired, and that is all
    obtain ⟨lapses, unchanged⟩ := settle_cases filed stored later effective
    have chain : AccessEffects runtime since disables store _ := lapses.effects
    apply ends_guard
    · exact chain
    intro notAccepted
    rw [ends_ite]
    constructor
    · intro _
      refine (publicInvite_ends _).mono ?_
      rintro outcome _ ⟨_, last, further, -, rfl⟩
      exact chain.tail (.tick last further rfl)
    · intro notRevoked
      apply ends_guard
      · exact chain
      intro notExpired
      simp only [ends_bind, ends_readClock, continue_ok, ends_modify]
      refine (publicInvite_ends _).mono ?_
      rintro outcome _ ⟨_, last, further, -, rfl⟩
      -- the other statuses have been answered before
      have now : status = .pending := by
        cases status with
        | pending => rfl
        | accepted => exact (notAccepted rfl).elim
        | revoked => exact (notRevoked rfl).elim
        | expired => exact (notExpired rfl).elim
      cases effective with
      | closed settled => exact (settled now).elim
      | past => cases now
      | opened pending opened =>
        rw [unchanged pending.symm] at further ⊢
        have ticked : AccessEffects runtime since disables store (store.atTick (ticks + 1)) :=
          tick_effects (Nat.le_succ_of_le later)
        have closed : AccessEffects runtime since disables store
            ((store.atTick (ticks + 1)).changeInvite inviteId fun held =>
              { held with status := .revoked, updatedAt := runtime.clock (store.atTick ticks).ticks }) :=
          ticked.tail (.close inviteId invite .revoked id _ stored pending (.inr rfl)
            (opened.wider started (Nat.le_succ ticks)) rfl)
        exact closed.tail (.tick last further rfl)
  · rintro error after ⟨_, _, _, impossible, -⟩
    cases impossible

theorem updateUserRole_effects (userId : String) (role : UserRole) :
    (updateUserRole runtime userId role).Ends store fun _ after => AccessEffects runtime since disables store after := by
  unfold updateUserRole
  apply ends_read
  apply ends_lookup
  · exact .refl
  intro target stored
  rw [ends_ite]
  constructor
  · intro _
    exact .refl
  · intro _
    apply ends_guard
    · exact .refl
    intro guarded
    simp only [ends_bind, ends_readClock, continue_ok, ends_modify, ends_pure]
    have ticked : AccessEffects runtime since disables store (store.atTick (store.ticks + 1)) := tick_effects (Nat.le_succ _)
    refine ticked.tail (.role userId target role _ stored ?_ rfl)
    intro owner other
    by_contra few
    exact guarded ⟨owner, other, Nat.le_of_lt_succ (Nat.lt_of_not_le few)⟩

theorem requestAccountDeletion_effects (actor : AuthUser)
    (gone : ∀ target ticks, store.users.get? actor.id = some target → disables (store.atTick ticks) target) :
    (requestAccountDeletion runtime actor).Ends store fun _ after => AccessEffects runtime since disables store after := by
  unfold requestAccountDeletion
  apply ends_read
  apply ends_lookup
  · exact .refl
  intro target stored
  apply ends_guard
  · exact .refl
  intro _
  simp only [ends_bind, ends_readClock, continue_ok, ends_modify, ends_pure]
  have ticked : AccessEffects runtime since disables store (store.atTick (store.ticks + 1)) := tick_effects (Nat.le_succ _)
  exact ticked.tail (.disable actor.id target _ _ stored (gone target _ stored) rfl)

end Chains

section Requests

variable {runtime : AccessRuntime} {since : Nat} {disables : AccessStore → User → Prop} {store before after : AccessStore}

/-- The request disables no user but one that may be disabled. -/
def AccessRequest.DisablesOnly (request : AccessRequest) (store : AccessStore) (disables : AccessStore → User → Prop) : Prop :=
  ∀ actor target ticks, request = .requestAccountDeletion actor → store.users.get? actor.id = some target →
    disables (store.atTick ticks) target

theorem next_effects (filed : store.Filed) (request : AccessRequest) (gone : request.DisablesOnly store disables) :
    AccessEffects runtime store.ticks disables store ((accessMachine runtime).next store request) := by
  show (request.run runtime).Ends store fun _ after => AccessEffects runtime store.ticks disables store after
  unfold AccessRequest.run
  cases request with
  | register resolves payload => exact (register_effects filed (Nat.le_refl _) resolves payload).dropped ()
  | createInvite payload actor => exact (createInvite_effects payload actor).dropped ()
  | listInvites => exact (listInvites_effects filed).dropped ()
  | revokeInvite inviteId => exact (revokeInvite_effects filed (Nat.le_refl _) inviteId).dropped ()
  | updateUserRole userId role => exact (updateUserRole_effects userId role).dropped ()
  | requestAccountDeletion actor =>
    have deleted : (requestAccountDeletion runtime actor).Ends store
        fun _ after => AccessEffects runtime store.ticks disables store after :=
      requestAccountDeletion_effects actor fun target ticks => gone actor target ticks rfl
    exact deleted.dropped ()

theorem AccessEffect.ticks (effect : AccessEffect runtime since disables before after) : before.ticks ≤ after.ticks := by
  cases effect with
  | tick ticks later same =>
    subst same
    exact later
  | _ =>
    rename_i same
    subst same
    exact Nat.le_refl _

theorem effects_ticks (chain : AccessEffects runtime since disables before after) : before.ticks ≤ after.ticks := by
  induction chain with
  | refl => exact Nat.le_refl _
  | tail _ effect ih => exact Nat.le_trans ih effect.ticks

theorem filed_adjust_invite (filed : store.Filed) (inviteId : String) {change : Invite → Invite}
    (same : ∀ invite, (change invite).id = invite.id) : (store.changeInvite inviteId change).Filed where
  invites := by
    intro otherId invite found
    unfold AccessStore.changeInvite at found
    rw [Table.get?_adjust] at found
    split at found
    · obtain ⟨held, stored, rfl⟩ := Option.map_eq_some_iff.mp found
      exact (same held).trans (filed.invites _ _ stored)
    · exact filed.invites _ _ found
  users := filed.users

theorem filed_adjust_user (filed : store.Filed) (userId : String) {change : User → User}
    (same : ∀ user, (change user).id = user.id) : (store.changeUser userId change).Filed where
  invites := filed.invites
  users := by
    intro otherId user found
    unfold AccessStore.changeUser at found
    rw [Table.get?_adjust] at found
    split at found
    · obtain ⟨held, stored, rfl⟩ := Option.map_eq_some_iff.mp found
      exact (same held).trans (filed.users _ _ stored)
    · exact filed.users _ _ found

theorem AccessEffect.files (filed : before.Filed) (effect : AccessEffect runtime since disables before after) :
    after.Filed := by
  cases effect with
  | tick ticks later same =>
    subst same
    exact ⟨filed.invites, filed.users⟩
  | expire inviteId invite updatedAt stored pending past same =>
    subst same
    exact filed_adjust_invite filed inviteId fun _ => rfl
  | close inviteId invite status accepts updatedAt stored pending closes opened same =>
    subst same
    exact filed_adjust_invite filed inviteId fun _ => rfl
  | invite invite fresh pending sole same =>
    subst same
    -- a new record goes under its own identifier
    refine ⟨?_, filed.users⟩
    intro inviteId other found
    rw [Table.get?_set] at found
    split at found
    · next here =>
      cases found
      exact here.symm
    · exact filed.invites _ _ found
  | enroll user email fresh normalized unclaimed enabled first same =>
    subst same
    refine ⟨filed.invites, ?_⟩
    intro userId other found
    rw [Table.get?_set] at found
    split at found
    · next here =>
      cases found
      exact here.symm
    · exact filed.users _ _ found
  | touch userId change keeps same =>
    subst same
    exact filed_adjust_user filed userId fun user => (keeps user).1
  | role userId target role updatedAt stored guarded same =>
    subst same
    exact filed_adjust_user filed userId fun _ => rfl
  | disable userId target updatedAt revoke stored gone same =>
    subst same
    have kept : (before.changeUser userId fun held => { held with disabled := true, updatedAt }).Filed :=
      filed_adjust_user filed userId fun _ => rfl
    exact ⟨filed.invites, kept.users⟩

theorem effects_invite_file (filed : before.Filed) (chain : AccessEffects runtime since disables before after) : after.Filed := by
  induction chain with
  | refl => exact filed
  | tail _ effect ih => exact effect.files ih

/-- A property that every effect keeps holds in every reachable state. -/
theorem access_invariant {allowed : AccessStore → AccessRequest → Prop} {invariant : AccessStore → Prop}
    (initial : ∀ store : AccessStore, store.Fresh → invariant store)
    (gone : ∀ store request, allowed store request → request.DisablesOnly store disables)
    (keep : ∀ since (before after : AccessStore), before.Filed → invariant before →
      AccessEffect runtime since disables before after → invariant after)
    (reachable : (accessMachine runtime).Reachable allowed store) : store.Filed ∧ invariant store := by
  have start : ∀ first : AccessStore, first.Fresh → first.Filed ∧ invariant first := by
    intro first fresh
    refine ⟨⟨?_, ?_⟩, initial first fresh⟩
    · intro inviteId invite found
      rw [fresh.invites] at found
      cases found
    · intro userId user found
      rw [fresh.users] at found
      cases found
  have step : ∀ state request, (state.Filed ∧ invariant state) → allowed state request →
      ((accessMachine runtime).next state request).Filed ∧ invariant ((accessMachine runtime).next state request) := by
    rintro state request ⟨filed, holds⟩ permitted
    have chain : AccessEffects runtime state.ticks disables state _ := next_effects filed request (gone _ _ permitted)
    generalize (accessMachine runtime).next state request = last at chain ⊢
    induction chain with
    | refl => exact ⟨filed, holds⟩
    | tail _ effect ih => exact ⟨effect.files ih.1, keep _ _ _ ih.1 ih.2 effect⟩
  obtain ⟨first, fresh, follows⟩ := reachable
  exact follows.keeps (start first fresh) step

end Requests

section Sample

/-- The runtime with digests that tell all tokens apart. -/
def plainAccess : AccessRuntime :=
  { Runtime.plain false with
    tokenHash := id
    isAlnum := Char.isAlphanum }

def emptyAccess : AccessStore := ⟨0, .empty, .empty, .empty⟩

theorem emptyAccess_fresh : emptyAccess.Fresh := ⟨rfl, rfl, rfl⟩

/-- The name service knows every domain. -/
def ownerRegistration : AccessRequest :=
  .register (fun _ => true) ⟨"founder@example.com", "Str0ng!Pass#9x", "Founder", none⟩

end Sample

end ControlTower
