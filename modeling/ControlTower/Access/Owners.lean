import Mathlib.Data.List.Perm.Subperm
import ControlTower.Access.Effects

/-! Somebody owns the control tower: after the first registration there is always an
active owner, as long as no deletion request disables the last one. -/

set_option autoImplicit false

namespace ControlTower

open Foundation

section Counting

variable {κ α : Type} [DecidableEq κ]

/-- Where two rows pass a test, one of them has another key. -/
theorem passes_elsewhere {table : Table κ α} {test : α → Bool} (several : 2 ≤ (table.values.filter test).length) (key : κ) :
    ∃ other value, other ≠ key ∧ table.get? other = some value ∧ test value = true := by
  by_contra none_
  have single : ∀ row ∈ table.rows.filter fun row => test row.2, row.1 = key := by
    intro row member
    by_contra different
    obtain ⟨listed, passes⟩ := List.mem_filter.mp member
    exact none_ ⟨row.1, row.2, different, Table.get?_eq_some.mpr listed, passes⟩
  have distinct : ((table.rows.filter fun row => test row.2).map Prod.fst).Nodup :=
    table.distinct.sublist (List.filter_sublist.map Prod.fst)
  have inside : (table.rows.filter fun row => test row.2).map Prod.fst ⊆ [key] := by
    intro other member
    obtain ⟨row, listed, rfl⟩ := List.mem_map.mp member
    exact List.mem_singleton.mpr (single row listed)
  have few := (List.subperm_of_subset distinct inside).length_le
  have counted : (table.values.filter test).length = (table.rows.filter fun row => test row.2).length := by
    unfold Table.values
    rw [List.filter_map, List.length_map]
    rfl
  rw [List.length_map, List.length_singleton] at few
  omega

theorem passes_somewhere {table : Table κ α} {test : α → Bool} :
    1 ≤ (table.values.filter test).length ↔ ∃ key value, table.get? key = some value ∧ test value = true := by
  rw [Nat.one_le_iff_ne_zero, ne_eq, List.length_eq_zero_iff, List.filter_eq_nil_iff]
  push Not
  constructor
  · rintro ⟨value, member, passes⟩
    obtain ⟨key, stored⟩ := Table.mem_values.mp member
    exact ⟨key, value, stored, passes⟩
  · rintro ⟨key, value, stored, passes⟩
    exact ⟨value, Table.mem_values.mpr ⟨key, stored⟩, passes⟩

end Counting

/-- Disabling the user leaves an active owner. -/
def AccessStore.LeavesOwner (store : AccessStore) (target : User) : Prop :=
  isActiveOwner target = true → 2 ≤ store.activeOwnerCount

/-- A deletion request of the last active owner is excluded. -/
def SparesOwner (store : AccessStore) (request : AccessRequest) : Prop :=
  ∀ actor target, request = .requestAccountDeletion actor → store.users.get? actor.id = some target →
    store.LeavesOwner target

section Owned

variable {runtime : AccessRuntime} {since : Nat} {store before after : AccessStore}

def AccessStore.HasOwner (store : AccessStore) : Prop :=
  ∃ userId user, store.users.get? userId = some user ∧ isActiveOwner user = true

theorem AccessStore.hasOwner_iff : 1 ≤ store.activeOwnerCount ↔ store.HasOwner := passes_somewhere

/-- Once there are users there is an owner. -/
def AccessStore.Owned (store : AccessStore) : Prop := store.users.values = [] ∨ store.HasOwner

theorem values_nil_iff {κ α : Type} [DecidableEq κ] {table : Table κ α} :
    table.values = [] ↔ ∀ key, table.get? key = none := by
  constructor
  · intro none_ key
    cases stored : table.get? key with
    | none => rfl
    | some value =>
      have member := Table.mem_values.mpr ⟨key, stored⟩
      rw [none_] at member
      cases member
  · intro none_
    apply List.eq_nil_iff_forall_not_mem.mpr
    intro value member
    obtain ⟨key, stored⟩ := Table.mem_values.mp member
    rw [none_ key] at stored
    cases stored

theorem adjusted_nil {change : User → User} {userId : String} (none_ : before.users.values = []) :
    (before.users.adjust userId change).values = [] := by
  rw [values_nil_iff] at none_ ⊢
  intro key
  rw [Table.get?_adjust, none_ key]
  split <;> rfl

/-- A change of one user leaves an owner, if the owner is another user or stays one. -/
theorem owned_adjust {change : User → User} {userId otherId : String} {owner : User}
    (stored : before.users.get? otherId = some owner) (active : isActiveOwner owner = true)
    (stays : otherId = userId → isActiveOwner (change owner) = true) :
    ∃ keptId kept, (before.users.adjust userId change).get? keptId = some kept ∧ isActiveOwner kept = true := by
  by_cases here : otherId = userId
  · refine ⟨otherId, change owner, ?_, stays here⟩
    rw [Table.get?_adjust, if_pos here, stored]
    rfl
  · refine ⟨otherId, owner, ?_, active⟩
    rw [Table.get?_adjust, if_neg here, stored]

theorem AccessEffect.keepsOwned (owned : before.Owned)
    (effect : AccessEffect runtime since AccessStore.LeavesOwner before after) : after.Owned := by
  cases effect with
  | tick ticks later same =>
    subst same
    exact owned
  | expire inviteId invite updatedAt stored pending past same =>
    subst same
    exact owned
  | close inviteId invite status accepts updatedAt stored pending closes opened same =>
    subst same
    exact owned
  | invite invite fresh pending sole same =>
    subst same
    exact owned
  | enroll user email fresh normalized unclaimed enabled first same =>
    subst same
    -- the first user becomes an owner
    rcases owned with none_ | ⟨ownerId, owner, stored, active⟩
    · refine .inr ⟨user.id, user, Table.get?_set_self _ _ _, ?_⟩
      unfold isActiveOwner
      rw [first none_, enabled]
      rfl
    · have elsewhere : ownerId ≠ user.id := by
        intro same
        exact fresh (Table.mem_keys.mpr ⟨owner, same ▸ stored⟩)
      exact .inr ⟨ownerId, owner, (Table.get?_set_other _ _ elsewhere).trans stored, active⟩
  | touch userId change keeps same =>
    subst same
    rcases owned with none_ | ⟨ownerId, owner, stored, active⟩
    · exact .inl (adjusted_nil none_)
    · -- nobody's role or activity changes
      refine .inr (owned_adjust stored active ?_)
      intro _
      unfold isActiveOwner at active ⊢
      rw [(keeps owner).2.2.1, (keeps owner).2.2.2]
      exact active
  | role userId target role updatedAt stored guarded same =>
    subst same
    rcases owned with none_ | ⟨ownerId, owner, owns, active⟩
    · exact .inl (adjusted_nil none_)
    · by_cases loses : target.role = .owner ∧ role ≠ .owner
      · -- two owners are active, so one of them is another user
        obtain ⟨otherId, other, elsewhere, present, activeToo⟩ := passes_elsewhere (guarded loses.1 loses.2) userId
        exact .inr (owned_adjust present activeToo fun here => (elsewhere here).elim)
      · refine .inr (owned_adjust owns active ?_)
        intro here
        -- the owner keeps the role, or is not the user of the change
        subst here
        have same := Option.some.inj (stored.symm.trans owns)
        subst same
        unfold isActiveOwner at active ⊢
        simp only [Bool.and_eq_true, beq_iff_eq] at active ⊢
        refine ⟨?_, active.2⟩
        by_contra other
        exact loses ⟨active.1, other⟩
  | disable userId target updatedAt revoke stored gone same =>
    subst same
    rcases owned with none_ | ⟨ownerId, owner, owns, active⟩
    · exact .inl (adjusted_nil none_)
    · by_cases here : ownerId = userId
      · subst here
        have same := Option.some.inj (stored.symm.trans owns)
        subst same
        -- an owner leaves only where another active owner stays
        obtain ⟨otherId, other, elsewhere, present, activeToo⟩ := passes_elsewhere (gone active) ownerId
        exact .inr (owned_adjust present activeToo fun here => (elsewhere here).elim)
      · exact .inr (owned_adjust owns active fun same => (here same).elim)

/-- After the first registration there is an active owner, in every state that is
reached without a deletion request of the last one. -/
theorem always_an_owner (runtime : AccessRuntime) (store : AccessStore)
    (reachable : (accessMachine runtime).Reachable SparesOwner store) (bootstrapped : store.users.values ≠ []) :
    1 ≤ store.activeOwnerCount := by
  have owned : store.Filed ∧ store.Owned := by
    apply access_invariant _ _ _ reachable
    · exact AccessStore.LeavesOwner
    · intro fresh empty
      refine .inl (values_nil_iff.mpr ?_)
      intro key
      rw [empty.users]
      rfl
    · intro state request spares actor target ticks same stored
      exact spares actor target same stored
    · intro since before after _ owned effect
      exact effect.keepsOwned owned
  rcases owned.2 with none_ | owner
  · exact (bootstrapped none_).elim
  · exact AccessStore.hasOwner_iff.mpr owner

section Sample

def founded : AccessStore := (accessMachine plainAccess).runAll emptyAccess [ownerRegistration]

theorem always_an_owner_founded : 1 ≤ founded.activeOwnerCount := by
  apply always_an_owner plainAccess founded
  · refine ⟨emptyAccess, emptyAccess_fresh, Machine.follows_runAll _ _ ⟨?_, trivial⟩⟩
    intro actor target impossible
    cases impossible
  · decide +kernel

/-- The founder asks for the deletion of the account. -/
def abandoned : AccessStore :=
  (accessMachine plainAccess).runAll emptyAccess
    [ownerRegistration, .requestAccountDeletion ⟨"user_", "founder@example.com", .owner⟩]

theorem deletion_leaves_no_owner : ¬ ∀ (runtime : AccessRuntime) (store : AccessStore),
    (accessMachine runtime).Reachable Machine.anything store → store.users.values ≠ [] → 1 ≤ store.activeOwnerCount := by
  intro claim
  have kept := claim plainAccess abandoned ⟨emptyAccess, emptyAccess_fresh, Machine.follows_anything _ _⟩ (by decide +kernel)
  have lost : abandoned.activeOwnerCount = 0 := by decide +kernel
  omega

end Sample

end Owned

end ControlTower
