import ControlTower.Access.Effects

/-! What an invite is good for: one user with its address and its role, while it is
pending and open. -/

set_option autoImplicit false

namespace ControlTower

open Foundation
open Foundation.Procedure

variable {runtime : AccessRuntime} {since : Nat} {disables : AccessStore → User → Prop} {store before after : AccessStore}

section Continuing

/-- What may become of an invite: it keeps its terms, and it leaves PENDING at most
once, to EXPIRED past its end and otherwise while it is open. -/
structure Invite.Continues (runtime : AccessRuntime) (since ticks : Nat) (invite later : Invite) : Prop where
  id : later.id = invite.id
  email : later.email = invite.email
  role : later.role = invite.role
  tokenHash : later.tokenHash = invite.tokenHash
  expiresAt : later.expiresAt = invite.expiresAt
  status : later.status = invite.status ∨ (invite.status = .pending ∧
    (later.status = .expired ∨ (later.status ≠ .pending ∧ invite.OpenSince runtime since ticks)))

theorem Invite.Continues.refl {ticks : Nat} (invite : Invite) : invite.Continues runtime since ticks invite :=
  ⟨rfl, rfl, rfl, rfl, rfl, .inl rfl⟩

theorem Invite.Continues.trans {ticks last : Nat} {first second third : Invite}
    (left : first.Continues runtime since ticks second) (right : second.Continues runtime since last third)
    (further : ticks ≤ last) : first.Continues runtime since last third where
  id := right.id.trans left.id
  email := right.email.trans left.email
  role := right.role.trans left.role
  tokenHash := right.tokenHash.trans left.tokenHash
  expiresAt := right.expiresAt.trans left.expiresAt
  status := by
    rcases right.status with same | ⟨pending, closes⟩
    · rcases left.status with still | ⟨pending, expired | ⟨settled, opened⟩⟩
      · exact .inl (same.trans still)
      · exact .inr ⟨pending, .inl (same.trans expired)⟩
      · exact .inr ⟨pending, .inr ⟨by rwa [same], opened.wider (Nat.le_refl _) further⟩⟩
    · rcases left.status with still | ⟨-, expired | ⟨settled, -⟩⟩
      · refine .inr ⟨still.symm.trans pending, ?_⟩
        rcases closes with expired | ⟨settled, tick, first, earlier, opened⟩
        · exact .inl expired
        · exact .inr ⟨settled, tick, first, earlier, by rwa [← left.expiresAt]⟩
      · rw [expired] at pending
        cases pending
      · exact (settled pending).elim

/-- Every invite continues. -/
def AccessStore.InvitesContinue (runtime : AccessRuntime) (since : Nat) (before after : AccessStore) : Prop :=
  ∀ inviteId invite, before.invites.get? inviteId = some invite →
    ∃ later, after.invites.get? inviteId = some later ∧ invite.Continues runtime since after.ticks later

theorem continue_same (same : after.invites = before.invites) : before.InvitesContinue runtime since after := by
  intro inviteId invite stored
  exact ⟨invite, by rw [same]; exact stored, .refl invite⟩

theorem continue_adjust {inviteId : String} {change : Invite → Invite}
    (changes : ∀ invite, before.invites.get? inviteId = some invite →
      invite.Continues runtime since before.ticks (change invite)) :
    before.InvitesContinue runtime since (before.changeInvite inviteId change) := by
  intro otherId invite stored
  by_cases here : otherId = inviteId
  · subst here
    refine ⟨change invite, ?_, changes invite stored⟩
    unfold AccessStore.changeInvite
    rw [Table.get?_adjust, if_pos rfl, stored]
    rfl
  · refine ⟨invite, ?_, .refl invite⟩
    unfold AccessStore.changeInvite
    rw [Table.get?_adjust, if_neg here, stored]

theorem AccessEffect.continues (effect : AccessEffect runtime since disables before after) :
    before.InvitesContinue runtime since after := by
  cases effect with
  | tick ticks later same =>
    subst same
    exact continue_same rfl
  | expire inviteId invite updatedAt stored pending past same =>
    subst same
    apply continue_adjust
    -- the invite found is the one the effect is about
    intro held found
    have same := Option.some.inj (stored.symm.trans found)
    subst same
    exact ⟨rfl, rfl, rfl, rfl, rfl, .inr ⟨pending, .inl rfl⟩⟩
  | close inviteId invite status accepts updatedAt stored pending closes opened same =>
    subst same
    apply continue_adjust
    intro held found
    have same := Option.some.inj (stored.symm.trans found)
    subst same
    refine ⟨rfl, rfl, rfl, rfl, rfl, .inr ⟨pending, .inr ⟨?_, opened⟩⟩⟩
    rcases closes with rfl | rfl
    · exact nofun
    · exact nofun
  | invite invite fresh pending sole same =>
    subst same
    intro inviteId other stored
    refine ⟨other, ?_, .refl other⟩
    -- a new invite goes under an identifier that none had
    have elsewhere : inviteId ≠ invite.id := by
      intro same
      exact fresh (Table.mem_keys.mpr ⟨other, same ▸ stored⟩)
    exact (Table.get?_set_other _ _ elsewhere).trans stored
  | enroll user email fresh normalized unclaimed enabled first same =>
    subst same
    exact continue_same rfl
  | touch userId change keeps same =>
    subst same
    exact continue_same rfl
  | role userId target role updatedAt stored guarded same =>
    subst same
    exact continue_same rfl
  | disable userId target updatedAt revoke stored gone same =>
    subst same
    exact continue_same rfl

theorem effects_continue (chain : AccessEffects runtime since disables before after) :
    before.InvitesContinue runtime since after := by
  induction chain with
  | refl => exact continue_same rfl
  | tail _ effect ih =>
    intro inviteId invite stored
    obtain ⟨middle, there, first⟩ := ih inviteId invite stored
    obtain ⟨later, present, second⟩ := effect.continues inviteId middle there
    exact ⟨later, present, first.trans second effect.ticks⟩

theorem Invite.Continues.since_earlier {ticks earlier : Nat} {invite later : Invite}
    (continues : invite.Continues runtime since ticks later) (before : earlier ≤ since) :
    invite.Continues runtime earlier ticks later := by
  refine ⟨continues.id, continues.email, continues.role, continues.tokenHash, continues.expiresAt, ?_⟩
  rcases continues.status with same | ⟨pending, expired | ⟨settled, opened⟩⟩
  · exact .inl same
  · exact .inr ⟨pending, .inl expired⟩
  · exact .inr ⟨pending, .inr ⟨settled, opened.wider before (Nat.le_refl _)⟩⟩

end Continuing

section Runs

/-- Runs keep the records filed, and time passes. -/
theorem follows_files {first last : AccessStore} (filed : first.Filed)
    (follows : (accessMachine runtime).Follows Machine.anything first last) :
    last.Filed ∧ first.ticks ≤ last.ticks := by
  induction follows with
  | done => exact ⟨filed, Nat.le_refl _⟩
  | step request _ _ ih =>
    obtain ⟨kept, later⟩ := ih
    have chain : AccessEffects runtime _ (fun _ _ => True) _ _ := next_effects kept request fun _ _ _ _ _ => trivial
    exact ⟨effects_invite_file kept chain, Nat.le_trans later (effects_ticks chain)⟩

theorem follows_continue {first last : AccessStore} (filed : first.Filed)
    (follows : (accessMachine runtime).Follows Machine.anything first last) :
    first.InvitesContinue runtime first.ticks last := by
  induction follows with
  | done => exact continue_same rfl
  | step request earlier _ ih =>
    obtain ⟨kept, later⟩ := follows_files filed earlier
    have chain : AccessEffects runtime _ (fun _ _ => True) _ _ := next_effects kept request fun _ _ _ _ _ => trivial
    intro inviteId invite stored
    obtain ⟨middle, there, left⟩ := ih inviteId invite stored
    obtain ⟨last, present, right⟩ := effects_continue chain inviteId middle there
    exact ⟨last, present, left.trans (right.since_earlier later) (effects_ticks chain)⟩

end Runs

section Exclusive

/-- Trimmed lower-case text stays as it is when it is lowered. -/
def AccessRuntime.Lowers (runtime : AccessRuntime) : Prop :=
  ∀ text, runtime.lower (Text.strip (runtime.lower text)) = Text.strip (runtime.lower text)

/-- Addresses are in lower case, and no two users share one. -/
structure AccessStore.EmailsApart (runtime : AccessRuntime) (store : AccessStore) : Prop where
  lowered : ∀ userId user, store.users.get? userId = some user → runtime.lower user.email = user.email
  apart : ∀ firstId secondId first second, store.users.get? firstId = some first → store.users.get? secondId = some second →
    runtime.lower first.email = runtime.lower second.email → firstId = secondId

/-- Of two pending invites for one address, one was past its end already. -/
def AccessStore.Exclusive (runtime : AccessRuntime) (store : AccessStore) : Prop :=
  ∀ firstId secondId first second, store.invites.get? firstId = some first → store.invites.get? secondId = some second →
    firstId ≠ secondId → first.email = second.email → first.status = .pending → second.status = .pending →
      first.PastBy runtime store.ticks ∨ second.PastBy runtime store.ticks

theorem emails_adjust {change : User → User} {userId : String} (emails : before.EmailsApart runtime)
    (users : after.users = before.users.adjust userId change) (same : ∀ user, (change user).email = user.email) :
    after.EmailsApart runtime := by
  have origin : ∀ otherId user, after.users.get? otherId = some user →
      ∃ earlier, before.users.get? otherId = some earlier ∧ user.email = earlier.email := by
    intro otherId user found
    rw [users, Table.get?_adjust] at found
    split at found
    · obtain ⟨held, stored, rfl⟩ := Option.map_eq_some_iff.mp found
      exact ⟨held, stored, same held⟩
    · exact ⟨user, found, rfl⟩
  constructor
  · intro otherId user found
    obtain ⟨earlier, stored, kept⟩ := origin otherId user found
    rw [kept]
    exact emails.lowered otherId earlier stored
  · intro firstId secondId first second found present alike
    obtain ⟨earlier, stored, kept⟩ := origin firstId first found
    obtain ⟨other, there, still⟩ := origin secondId second present
    rw [kept, still] at alike
    exact emails.apart firstId secondId earlier other stored there alike

theorem AccessEffect.keepsEmails (lowers : runtime.Lowers) (emails : before.EmailsApart runtime)
    (effect : AccessEffect runtime since disables before after) : after.EmailsApart runtime := by
  cases effect with
  | tick ticks later same =>
    subst same
    exact ⟨emails.lowered, emails.apart⟩
  | expire inviteId invite updatedAt stored pending past same =>
    subst same
    exact ⟨emails.lowered, emails.apart⟩
  | close inviteId invite status accepts updatedAt stored pending closes opened same =>
    subst same
    exact ⟨emails.lowered, emails.apart⟩
  | invite invite fresh pending sole same =>
    subst same
    exact ⟨emails.lowered, emails.apart⟩
  | enroll user email fresh normalized unclaimed enabled first same =>
    subst same
    have lowered : runtime.lower user.email = user.email := by
      rw [normalized]
      exact lowers email
    -- the address of the new account is taken by no other account
    have new : ∀ otherId other, before.users.get? otherId = some other →
        runtime.lower other.email ≠ runtime.lower user.email := by
      intro otherId other stored
      rw [lowered]
      exact unclaimed other (Table.mem_values.mpr ⟨otherId, stored⟩)
    constructor
    · intro otherId other found
      rw [Table.get?_set] at found
      split at found
      · cases found
        exact lowered
      · exact emails.lowered otherId other found
    · intro firstId secondId first second found present alike
      rw [Table.get?_set] at found present
      split at found
      · next here =>
        cases found
        split at present
        · next there => exact here.trans there.symm
        · exact (new secondId second present alike.symm).elim
      · split at present
        · cases present
          exact (new firstId first found alike).elim
        · exact emails.apart firstId secondId first second found present alike
  | touch userId change keeps same =>
    subst same
    exact emails_adjust emails rfl fun user => (keeps user).2.1
  | role userId target role updatedAt stored guarded same =>
    subst same
    have users : (before.changeUser userId fun held => { held with role, updatedAt }).users =
      before.users.adjust userId fun held => { held with role, updatedAt } := rfl
    exact emails_adjust emails users fun _ => rfl
  | disable userId target updatedAt revoke stored gone same =>
    have users : after.users = before.users.adjust userId fun held => { held with disabled := true, updatedAt } := by
      rw [same]
    exact emails_adjust emails users fun _ => rfl

theorem Invite.PastBy.later {invite : Invite} {ticks last : Nat} (past : invite.PastBy runtime ticks) (later : ticks ≤ last) :
    invite.PastBy runtime last := by
  obtain ⟨tick, earlier, ended⟩ := past
  exact ⟨tick, Nat.lt_of_lt_of_le earlier later, ended⟩

/-- Invites that continue, with no new one, stay exclusive. -/
theorem exclusive_continue (exclusive : before.Exclusive runtime)
    (known : ∀ inviteId invite, after.invites.get? inviteId = some invite → ∃ earlier,
      before.invites.get? inviteId = some earlier ∧ earlier.Continues runtime since after.ticks invite)
    (ticks : before.ticks ≤ after.ticks) : after.Exclusive runtime := by
  -- a pending invite was pending before
  have origin : ∀ inviteId invite, after.invites.get? inviteId = some invite → invite.status = .pending → ∃ earlier,
      before.invites.get? inviteId = some earlier ∧ earlier.status = .pending ∧ earlier.email = invite.email ∧
        earlier.expiresAt = invite.expiresAt := by
    intro inviteId invite found pending
    obtain ⟨earlier, stored, continues⟩ := known inviteId invite found
    refine ⟨earlier, stored, ?_, continues.email.symm, continues.expiresAt.symm⟩
    rcases continues.status with same | ⟨held, -⟩
    · rw [← same]
      exact pending
    · exact held
  intro firstId secondId first second found present different alike pending also
  obtain ⟨earlier, stored, waiting, address, ends⟩ := origin firstId first found pending
  obtain ⟨other, there, waitingToo, addressToo, endsToo⟩ := origin secondId second present also
  have past := exclusive firstId secondId earlier other stored there different
    (by rw [address, addressToo, alike]) waiting waitingToo
  unfold Invite.PastBy at past ⊢
  rw [ends, endsToo] at past
  rcases past with ⟨tick, before, ended⟩ | ⟨tick, before, ended⟩
  · exact .inl ⟨tick, Nat.lt_of_lt_of_le before ticks, ended⟩
  · exact .inr ⟨tick, Nat.lt_of_lt_of_le before ticks, ended⟩

theorem known_adjust {inviteId : String} {change : Invite → Invite}
    (continues : before.InvitesContinue runtime since (before.changeInvite inviteId change)) :
    ∀ otherId invite, (before.changeInvite inviteId change).invites.get? otherId = some invite → ∃ earlier,
      before.invites.get? otherId = some earlier ∧
        earlier.Continues runtime since (before.changeInvite inviteId change).ticks invite := by
  intro otherId invite found
  have known : otherId ∈ before.invites.keys := by
    rw [← Table.keys_adjust before.invites inviteId change]
    exact Table.mem_keys.mpr ⟨invite, found⟩
  obtain ⟨earlier, stored⟩ := Table.mem_keys.mp known
  obtain ⟨later, present, holds⟩ := continues otherId earlier stored
  have same := Option.some.inj (present.symm.trans found)
  subst same
  exact ⟨earlier, stored, holds⟩

theorem AccessEffect.keepsExclusive (exclusive : before.Exclusive runtime)
    (effect : AccessEffect runtime since disables before after) : after.Exclusive runtime := by
  have continues := effect.continues
  have ticks := effect.ticks
  cases effect with
  | expire inviteId invite updatedAt stored pending past same =>
    subst same
    exact exclusive_continue exclusive (known_adjust continues) ticks
  | close inviteId invite status accepts updatedAt stored pending closes opened same =>
    subst same
    exact exclusive_continue exclusive (known_adjust continues) ticks
  | invite invite fresh pending sole same =>
    subst same
    intro firstId secondId first second found present different alike waiting also
    rw [Table.get?_set] at found present
    split at found
    · next here =>
      cases found
      split at present
      · next there => exact (different (here.trans there.symm)).elim
      · -- a pending invite for the same address had run out when the new one was issued
        exact .inr (sole second (Table.mem_values.mpr ⟨secondId, present⟩) alike.symm also)
    · split at present
      · cases present
        exact .inl (sole first (Table.mem_values.mpr ⟨firstId, found⟩) alike waiting)
      · exact exclusive firstId secondId first second found present different alike waiting also
  | tick count later same =>
    subst same
    intro firstId secondId first second found present different alike waiting also
    -- what has expired stays expired as the clock goes on
    rcases exclusive firstId secondId first second found present different alike waiting also with past | past
    · exact .inl (past.later later)
    · exact .inr (past.later later)
  | enroll user email fresh normalized unclaimed enabled first same =>
    subst same
    exact exclusive
  | touch userId change keeps same =>
    subst same
    exact exclusive
  | role userId target role updatedAt stored guarded same =>
    subst same
    exact exclusive
  | disable userId target updatedAt revoke stored gone same =>
    subst same
    exact exclusive

end Exclusive

section Spending

/-- The invite that a token names is no longer pending. -/
def AccessStore.Spent (runtime : AccessRuntime) (store : AccessStore) (token : String) : Prop :=
  ∃ invite, (store.invites.values.find? fun item => item.tokenHash == runtime.tokenHash token).map (·.id) = some invite.id ∧
    store.invites.get? invite.id = some invite ∧ invite.status ≠ .pending

theorem Spent.adjust {token inviteId : String} {change : Invite → Invite} (spent : before.Spent runtime token)
    (same : ∀ invite, (change invite).tokenHash = invite.tokenHash ∧ (change invite).id = invite.id)
    (continues : before.InvitesContinue runtime since (before.changeInvite inviteId change)) :
    (before.changeInvite inviteId change).Spent runtime token := by
  obtain ⟨invite, named, stored, settled⟩ := spent
  obtain ⟨later, present, holds⟩ := continues invite.id invite stored
  refine ⟨later, ?_, by rw [holds.id]; exact present, ?_⟩
  · rw [holds.id, ← named]
    apply Table.find?_adjust
    · intro held
      rw [(same held).1]
    · intro held
      exact (same held).2
  · rcases holds.status with still | ⟨pending, -⟩
    · rw [still]
      exact settled
    · exact (settled pending).elim

theorem AccessEffect.keepsSpent {token : String} (spent : before.Spent runtime token)
    (effect : AccessEffect runtime since disables before after) : after.Spent runtime token := by
  have continues := effect.continues
  cases effect with
  | tick count later same =>
    subst same
    exact spent
  | expire inviteId invite updatedAt stored pending past same =>
    subst same
    exact Spent.adjust spent (fun _ => ⟨rfl, rfl⟩) continues
  | close inviteId invite status accepts updatedAt stored pending closes opened same =>
    subst same
    exact Spent.adjust spent (fun _ => ⟨rfl, rfl⟩) continues
  | invite invite fresh pending sole same =>
    subst same
    obtain ⟨held, named, stored, settled⟩ := spent
    -- the search for the token still finds the invite that stands before the new one
    refine ⟨held, ?_, ?_, settled⟩
    · rw [Table.values_set_fresh _ fresh, List.find?_append]
      obtain ⟨first, found, identity⟩ := Option.map_eq_some_iff.mp named
      rw [found]
      exact congrArg some identity
    · have elsewhere : held.id ≠ invite.id := by
        intro same
        exact fresh (Table.mem_keys.mpr ⟨held, same ▸ stored⟩)
      exact (Table.get?_set_other _ _ elsewhere).trans stored
  | enroll user email fresh normalized unclaimed enabled first same =>
    subst same
    exact spent
  | touch userId change keeps same =>
    subst same
    exact spent
  | role userId target role updatedAt stored guarded same =>
    subst same
    exact spent
  | disable userId target updatedAt revoke stored gone same =>
    subst same
    exact spent

/-- Users stay. -/
theorem AccessEffect.keepsUsers {userId : String} (known : userId ∈ before.users.keys)
    (effect : AccessEffect runtime since disables before after) : userId ∈ after.users.keys := by
  cases effect with
  | enroll user email fresh normalized unclaimed enabled first same =>
    subst same
    rw [show ({ before with users := before.users.set user.id user } : AccessStore).users.keys =
      (before.users.set user.id user).keys from rfl, Table.keys_set, if_neg fresh]
    exact List.mem_append_left _ known
  | touch id change keeps same =>
    subst same
    exact (Table.keys_adjust before.users id change).symm ▸ known
  | role id target role updatedAt stored guarded same =>
    subst same
    exact (Table.keys_adjust before.users id _).symm ▸ known
  | disable id target updatedAt revoke stored gone same =>
    subst same
    exact (Table.keys_adjust before.users id _).symm ▸ known
  | _ =>
    rename_i same
    subst same
    exact known

theorem follows_spent {first last : AccessStore} {token userId : String} (filed : first.Filed)
    (spent : first.Spent runtime token) (known : userId ∈ first.users.keys)
    (follows : (accessMachine runtime).Follows Machine.anything first last) :
    last.Spent runtime token ∧ userId ∈ last.users.keys := by
  induction follows with
  | done => exact ⟨spent, known⟩
  | step request earlier _ ih =>
    obtain ⟨kept, -⟩ := follows_files filed earlier
    have chain : AccessEffects runtime _ (fun _ _ => True) _ _ := next_effects kept request fun _ _ _ _ _ => trivial
    generalize (accessMachine runtime).next _ request = last at chain ⊢
    induction chain with
    | refl => exact ih
    | tail _ effect more => exact ⟨effect.keepsSpent more.1, effect.keepsUsers more.2⟩

end Spending

section Law

/-- A registration that fails: no user is added, and an invite changes only in that it
is marked EXPIRED when it is past its end. -/
structure ConsumesNothing (runtime : AccessRuntime) (store after : AccessStore) : Prop where
  users : after.users = store.users
  keys : after.invites.keys = store.invites.keys
  invites : ∀ inviteId invite, store.invites.get? inviteId = some invite → after.invites.get? inviteId = some invite ∨
    (invite.status = .pending ∧ invite.PastBy runtime after.ticks ∧
      after.invites.get? inviteId = some { invite with status := .expired })

/-- A registration that succeeds: the invite of its token was pending and open, it is
accepted by the one new user, who has its address and its role. -/
structure Consumes (runtime : AccessRuntime) (store : AccessStore) (payload : RegisterRequest) (invite : Invite)
    (answer : AuthUser) (after : AccessStore) : Prop where
  token : invite.tokenHash = runtime.tokenHash (payload.inviteToken.getD "")
  stored : store.invites.get? invite.id = some invite
  pending : invite.status = .pending
  opened : invite.OpenSince runtime store.ticks after.ticks
  email : invite.email = normalizeEmail runtime payload.email
  fresh : answer.id ∉ store.users.keys
  user : ∃ user, after.users.get? answer.id = some user ∧ user.email = invite.email ∧ user.role = invite.role
  others : ∀ otherId, otherId ≠ answer.id → after.users.get? otherId = store.users.get? otherId
  accepted : ∃ closed, after.invites.get? invite.id = some closed ∧ closed.status = .accepted ∧
    closed.acceptedByUserId = some answer.id
  untouched : ∀ otherId, otherId ≠ invite.id → after.invites.get? otherId = store.invites.get? otherId

/-- What a registration comes to once there are users. -/
def RegistrationEnds (runtime : AccessRuntime) (store : AccessStore) (payload : RegisterRequest)
    (outcome : Except Raised AuthUser) (after : AccessStore) : Prop :=
  ((∃ error, outcome = .error error) ∧ ConsumesNothing runtime store after) ∨
    ∃ invite answer, outcome = .ok answer ∧ Consumes runtime store payload invite answer after

theorem Lapses.consumesNothing (lapses : Lapses runtime store after) : ConsumesNothing runtime store after := by
  cases lapses with
  | waits ticks later same =>
    subst same
    exact ⟨rfl, rfl, fun _ _ stored => .inl stored⟩
  | expires ticks later inviteId invite stored pending past same =>
    subst same
    refine ⟨rfl, Table.keys_adjust _ _ _, ?_⟩
    intro otherId other found
    unfold AccessStore.changeInvite
    dsimp only
    rw [Table.get?_adjust]
    by_cases here : otherId = inviteId
    · subst here
      have same := Option.some.inj (stored.symm.trans found)
      subst same
      refine .inr ⟨pending, past, ?_⟩
      rw [if_pos rfl, show (store.atTick ticks).invites.get? otherId = some invite from stored]
      rfl
    · rw [if_neg here]
      exact .inl found

theorem RegistersWith.consumes (filed : store.Filed) {payload : RegisterRequest} {invite : Invite} {user : User}
    {answer : AuthUser}
    (registers : RegistersWith runtime store payload.email (payload.inviteToken.getD "") invite user answer after) :
    Consumes runtime store payload invite answer after := by
  obtain ⟨hashed, inviteId, stored⟩ := Table.find?_values registers.named
  have filedAt := filed.invites _ _ stored
  subst filedAt
  have opened := registers.opened
  obtain ⟨ticks, updatedAt, change, later, keeps, same⟩ := registers.written
  have answered := registers.answered
  subst same
  subst answered
  have enrolled : (store.users.set user.id user).get? user.id = some user := Table.get?_set_self _ _ _
  refine ⟨by simpa using hashed, stored, registers.pending, opened, registers.addressed, registers.enrolls.fresh, ?_, ?_, ?_, ?_⟩
  · -- the change at the end of the registration keeps what the enrolment wrote
    refine ⟨change user, ?_, ?_, ?_⟩
    · show ((store.users.set user.id user).adjust user.id change).get? user.id = _
      rw [Table.get?_adjust, if_pos rfl, enrolled]
      rfl
    · rw [(keeps user).2.1, registers.enrolls.email, registers.addressed]
      rfl
    · rw [(keeps user).2.2.1, registers.enrolls.role]
      rfl
  · intro otherId elsewhere
    show ((store.users.set user.id user).adjust user.id change).get? otherId = _
    rw [Table.get?_adjust, if_neg elsewhere, Table.get?_set_other _ _ elsewhere]
  · refine ⟨{ invite with status := .accepted, acceptedByUserId := some user.id, updatedAt }, ?_, rfl, rfl⟩
    show (store.invites.adjust invite.id _).get? invite.id = _
    rw [Table.get?_adjust, if_pos rfl, stored]
    rfl
  · intro otherId elsewhere
    show (store.invites.adjust invite.id _).get? otherId = _
    rw [Table.get?_adjust, if_neg elsewhere]

theorem register_ends (filed : store.Filed) (peopled : store.users.values ≠ []) (resolves : String → Bool)
    (payload : RegisterRequest) :
    (register runtime resolves payload).Ends store fun outcome after =>
      ((∃ error, outcome = .error error) ∧ Lapses runtime store after) ∨
        ∃ invite user answer, outcome = .ok answer ∧
          RegistersWith runtime store payload.email (payload.inviteToken.getD "") invite user answer after := by
  have waits : Lapses runtime store store := .waits store.ticks (Nat.le_refl _) rfl
  unfold register
  apply Ends.bind (validateRegistrationPayload_ends resolves payload)
  · rintro _ middle same
    subst same
    apply ends_read
    rw [if_neg peopled]
    apply ends_guard
    · exact .inl ⟨⟨_, rfl⟩, waits⟩
    intro _
    exact registerWithInvite_ends filed resolves payload
  · rintro error middle same
    subst same
    exact .inl ⟨⟨_, rfl⟩, waits⟩

/-- The law of users and invites in one state and for all that follows it. -/
structure InviteLaw (runtime : AccessRuntime) (store : AccessStore) : Prop where
  /-- No two users share an address up to the case of its letters. -/
  emails : ∀ firstId secondId first second, store.users.get? firstId = some first →
    store.users.get? secondId = some second → runtime.lower first.email = runtime.lower second.email → firstId = secondId
  /-- From now on no two pending invites for one address are open at a time. -/
  exclusive : ∀ firstId secondId first second, store.invites.get? firstId = some first →
    store.invites.get? secondId = some second → firstId ≠ secondId → first.email = second.email →
    first.status = .pending → second.status = .pending → ∀ tick, store.ticks ≤ tick →
      ¬(runtime.clock tick < first.expiresAt ∧ runtime.clock tick < second.expiresAt)
  /-- An invite stays; what is not pending keeps its status, and what is past its end
  is never accepted or revoked. -/
  absorbing : ∀ last, (accessMachine runtime).Follows Machine.anything store last → ∀ inviteId invite,
    store.invites.get? inviteId = some invite → ∃ later, last.invites.get? inviteId = some later ∧
      later.email = invite.email ∧ later.role = invite.role ∧ later.expiresAt = invite.expiresAt ∧
      (invite.status ≠ .pending → later.status = invite.status) ∧
      (invite.status = .pending → invite.expiresAt ≤ runtime.clock store.ticks →
        later.status = .pending ∨ later.status = .expired)
  registers : store.users.values ≠ [] → ∀ resolves payload,
    (register runtime resolves payload).Ends store (RegistrationEnds runtime store payload)
  /-- The first registration leaves the invites alone, and without success the users. -/
  bootstrap : store.users.values = [] → ∀ resolves payload, (register runtime resolves payload).Ends store
    fun outcome after => after.invites = store.invites ∧ ∀ error, outcome = .error error → after = store
  /-- The token of a registration that succeeded is of no use any more. -/
  single : store.users.values ≠ [] → ∀ resolves payload answer after,
    (register runtime resolves payload).run store = (.ok answer, after) →
    ∀ last, (accessMachine runtime).Follows Machine.anything after last → ∀ resolves payload',
      payload'.inviteToken.getD "" = payload.inviteToken.getD "" → (register runtime resolves payload').Ends last
        fun outcome final => (∃ error, outcome = .error error) ∧ ConsumesNothing runtime last final
  /-- An invite that is made here is accepted with its token only, by a user with its address and role. -/
  issued : ∀ request actor shown token made, (createInvite runtime request actor).run store = (.ok (shown, token), made) →
    ∀ last, (accessMachine runtime).Follows Machine.anything made last → ∀ payload invite answer after,
      Consumes runtime last payload invite answer after → invite.id = shown.id →
        payload.inviteToken.getD "" = token ∧ invite.email = normalizeEmail runtime request.email ∧
          invite.role = request.role

theorem disables_anything (state : AccessStore) (request : AccessRequest) (_ : Machine.anything state request) :
    request.DisablesOnly state fun _ _ => True := fun _ _ _ _ _ => trivial

theorem emails_reachable (lowers : runtime.Lowers) (reachable : (accessMachine runtime).Reachable Machine.anything store) :
    store.Filed ∧ store.EmailsApart runtime := by
  apply access_invariant _ disables_anything _ reachable
  · intro fresh empty
    constructor
    · intro userId user found
      rw [empty.users] at found
      cases found
    · intro firstId secondId first second found
      rw [empty.users] at found
      cases found
  · intro since before after _ emails effect
    exact effect.keepsEmails lowers emails

theorem exclusive_reachable (reachable : (accessMachine runtime).Reachable Machine.anything store) :
    store.Filed ∧ store.Exclusive runtime := by
  apply access_invariant _ disables_anything _ reachable
  · intro fresh empty firstId secondId first second found
    rw [empty.invites] at found
    cases found
  · intro since before after _ exclusive effect
    exact effect.keepsExclusive exclusive

theorem register_law (filed : store.Filed) (peopled : store.users.values ≠ []) (resolves : String → Bool)
    (payload : RegisterRequest) : (register runtime resolves payload).Ends store (RegistrationEnds runtime store payload) := by
  refine (register_ends filed peopled resolves payload).mono ?_
  rintro outcome after (⟨fails, lapses⟩ | ⟨invite, user, answer, succeeds, registers⟩)
  · exact .inl ⟨fails, lapses.consumesNothing⟩
  · exact .inr ⟨invite, answer, succeeds, registers.consumes filed⟩

theorem register_bootstrap (deserted : store.users.values = []) (resolves : String → Bool) (payload : RegisterRequest) :
    (register runtime resolves payload).Ends store fun outcome after =>
      after.invites = store.invites ∧ ∀ error, outcome = .error error → after = store := by
  unfold register
  apply Ends.bind (validateRegistrationPayload_ends resolves payload)
  · rintro _ middle same
    subst same
    apply ends_read
    rw [if_pos deserted]
    unfold registerBootstrap
    apply Ends.bind (createUser_ends payload.email payload.displayName none false)
    · rintro user _ (⟨⟨_, impossible⟩, -⟩ | ⟨_, ticks, later, same, enrolls, rfl⟩)
      · cases impossible
      refine (createRegistrationResponse_ends user).mono ?_
      rintro outcome _ ⟨answered, last, change, further, keeps, rfl⟩
      refine ⟨rfl, ?_⟩
      intro error impossible
      rw [answered] at impossible
      cases impossible
    · rintro error _ (⟨-, rfl⟩ | ⟨_, _, _, impossible, -⟩)
      · exact ⟨rfl, fun _ _ => rfl⟩
      · cases impossible
  · rintro error middle same
    subst same
    exact ⟨rfl, fun _ _ => rfl⟩

/-- A token whose invite is no longer pending registers nobody. -/
theorem register_spent (filed : store.Filed) (peopled : store.users.values ≠ []) {token : String}
    (spent : store.Spent runtime token) (resolves : String → Bool) (payload : RegisterRequest)
    (presents : payload.inviteToken.getD "" = token) :
    (register runtime resolves payload).Ends store fun outcome final =>
      (∃ error, outcome = .error error) ∧ ConsumesNothing runtime store final := by
  refine (register_ends filed peopled resolves payload).mono ?_
  rintro outcome after (⟨fails, lapses⟩ | ⟨invite, user, answer, succeeds, registers⟩)
  · exact ⟨fails, lapses.consumesNothing⟩
  · obtain ⟨held, named, stored, settled⟩ := spent
    have found := registers.named
    rw [presents] at found
    rw [found, Option.map_some] at named
    have present := (registers.consumes filed).stored
    rw [Option.some.inj named] at present
    have same := Option.some.inj (present.symm.trans stored)
    subst same
    exact (settled registers.pending).elim

theorem RegistersWith.spends (filed : store.Filed) {payload : RegisterRequest} {invite : Invite} {user : User}
    {answer : AuthUser} {token : String}
    (registers : RegistersWith runtime store payload.email token invite user answer after) :
    after.Spent runtime token := by
  obtain ⟨-, inviteId, stored⟩ := Table.find?_values registers.named
  have filedAt := filed.invites _ _ stored
  subst filedAt
  obtain ⟨ticks, updatedAt, change, later, keeps, same⟩ := registers.written
  subst same
  refine ⟨{ invite with status := .accepted, acceptedByUserId := some user.id, updatedAt }, ?_, ?_, ?_⟩
  · have moved : ((store.invites.adjust invite.id fun held =>
        { held with status := .accepted, acceptedByUserId := some user.id, updatedAt }).values.find? fun item =>
          item.tokenHash == runtime.tokenHash token).map (·.id) =
        (store.invites.values.find? fun item => item.tokenHash == runtime.tokenHash token).map (·.id) := by
      apply Table.find?_adjust
      · intro held
        rfl
      · intro held
        rfl
    refine moved.trans ?_
    rw [registers.named]
    rfl
  · show (store.invites.adjust invite.id _).get? invite.id = _
    rw [Table.get?_adjust, if_pos rfl, stored]
    rfl
  · exact nofun

theorem Consumes.peopled {payload : RegisterRequest} {invite : Invite} {answer : AuthUser}
    (consumes : Consumes runtime store payload invite answer after) : answer.id ∈ after.users.keys := by
  obtain ⟨user, stored, -⟩ := consumes.user
  exact Table.mem_keys.mpr ⟨user, stored⟩

theorem values_ne_nil {κ α : Type} [DecidableEq κ] {table : Table κ α} {key : κ} (known : key ∈ table.keys) :
    table.values ≠ [] := by
  obtain ⟨value, stored⟩ := Table.mem_keys.mp known
  intro none_
  have member := Table.mem_values.mpr ⟨key, stored⟩
  rw [none_] at member
  cases member

/-- Invites are single-use and exclusive, and addresses are unique, in every reachable state. -/
theorem invite_law (runtime : AccessRuntime) (passes : Monotone runtime.clock) (lowers : runtime.Lowers)
    (distinct : Function.Injective runtime.tokenHash) (store : AccessStore)
    (reachable : (accessMachine runtime).Reachable Machine.anything store) : InviteLaw runtime store := by
  obtain ⟨filed, emails⟩ := emails_reachable lowers reachable
  have exclusive := (exclusive_reachable reachable).2
  constructor
  · exact emails.apart
  · intro firstId secondId first second found present different alike pending also tick later ⟨openFirst, openSecond⟩
    rcases exclusive firstId secondId first second found present different alike pending also with
      ⟨moment, earlier, ended⟩ | ⟨moment, earlier, ended⟩
    · -- the invite had ended at an earlier reading, and the clock does not run backwards
      have passed := passes (Nat.le_of_lt (Nat.lt_of_lt_of_le earlier later))
      exact Nat.not_le_of_lt openFirst (Nat.le_trans ended passed)
    · have passed := passes (Nat.le_of_lt (Nat.lt_of_lt_of_le earlier later))
      exact Nat.not_le_of_lt openSecond (Nat.le_trans ended passed)
  · intro last follows inviteId invite stored
    obtain ⟨later, present, continues⟩ := follows_continue filed follows inviteId invite stored
    refine ⟨later, present, continues.email, continues.role, continues.expiresAt, ?_, ?_⟩
    · intro settled
      rcases continues.status with same | ⟨pending, -⟩
      · exact same
      · exact (settled pending).elim
    · intro pending ended
      rcases continues.status with same | ⟨-, expired | ⟨-, tick, first, -, opened⟩⟩
      · exact .inl (same.trans pending)
      · exact .inr expired
      · -- the clock would have to run backwards
        have passed := passes first
        exact (Nat.not_le_of_lt opened (Nat.le_trans ended passed)).elim
  · intro peopled resolves payload
    exact register_law filed peopled resolves payload
  · intro deserted resolves payload
    exact register_bootstrap deserted resolves payload
  · intro peopled resolves payload answer after ran last follows others other presents
    rcases (register_ends filed peopled resolves payload).of_run ran with ⟨⟨_, impossible⟩, -⟩ | ⟨invite, user, _, _, registers⟩
    · cases impossible
    have chain : AccessEffects runtime store.ticks (fun _ _ => True) store after :=
      registers.effects filed (Nat.le_refl _) peopled
    have after_filed := effects_invite_file filed chain
    obtain ⟨spent, known⟩ := follows_spent after_filed (registers.spends filed)
      (registers.consumes filed).peopled follows
    exact register_spent (follows_files after_filed follows).1 (values_ne_nil known) spent others other presents
  · intro request actor shown token made ran last follows payload invite answer after consumes same
    -- the consumed invite is the issued one, later on
    rcases (createInvite_ends request actor).of_run ran with ⟨⟨_, impossible⟩, -⟩ | ⟨issued, status, _, told, issues⟩
    · cases impossible
    cases told
    obtain ⟨ticks, moment, -, -, -, written⟩ := issues.written
    have stored : made.invites.get? issued.id = some issued := by
      rw [written]
      exact Table.get?_set_self _ _ _
    have chain : AccessEffects runtime store.ticks (fun _ _ => True) store made :=
      (createInvite_effects request actor).of_run ran
    obtain ⟨later, present, continues⟩ := follows_continue (effects_invite_file filed chain) follows issued.id issued stored
    have there := consumes.stored
    rw [same] at there
    have held := Option.some.inj (present.symm.trans there)
    subst held
    refine ⟨?_, continues.email.trans issues.email, continues.role.trans issues.role⟩
    -- equal hashes come from equal tokens
    apply distinct
    rw [← consumes.token, continues.tokenHash, issues.hashed]

/-- The founder invites a reviewer. -/
def invitation : List AccessRequest :=
  [ownerRegistration, .createInvite ⟨"Reviewer@Example.com", .reviewer, inviteDays, by decide⟩
    ⟨"user_", "founder@example.com", .owner⟩]

def invited : AccessStore := (accessMachine plainAccess).runAll emptyAccess invitation

theorem invite_law_invited : InviteLaw plainAccess invited := by
  have passes : Monotone plainAccess.clock := fun first second later => Nat.mul_le_mul_right 1000000 later
  have lowers : plainAccess.Lowers := by
    intro text
    simp only [plainAccess, Runtime.plain, id]
  have distinct : Function.Injective plainAccess.tokenHash := fun first second same => same
  have reached : (accessMachine plainAccess).Reachable Machine.anything invited := by
    unfold invited
    exact ⟨emptyAccess, emptyAccess_fresh, Machine.follows_anything _ _⟩
  exact invite_law plainAccess passes lowers distinct invited reached

end Law

end ControlTower
