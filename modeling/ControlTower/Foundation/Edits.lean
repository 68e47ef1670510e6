import Mathlib.Data.List.Nodup
import Mathlib.Logic.Function.Basic

/-! Plans of edits to a table that are not made at once. Each edit asks something of the
entry that it replaces, and a run of a plan may stop between two edits. -/

set_option autoImplicit false

namespace ControlTower.Foundation

structure Edit (κ ν : Type) where
  key : κ
  /-- What the edit asks of the entry it finds. -/
  fits : Option ν → Bool
  value : Option ν

variable {κ ν : Type}

/-- The edit finds what it asks for where it has been made before. -/
def Edit.Repeats (edit : Edit κ ν) : Prop := edit.fits edit.value = true

/-- No two edits are about one entry. -/
def Apart (plan : List (Edit κ ν)) : Prop := (plan.map Edit.key).Nodup

theorem Apart.tail {first : Edit κ ν} {plan : List (Edit κ ν)} (apart : Apart (first :: plan)) : Apart plan :=
  (List.nodup_cons.mp apart).2

theorem Apart.take {plan : List (Edit κ ν)} (apart : Apart plan) (count : Nat) : Apart (plan.take count) :=
  apart.sublist ((List.take_sublist count plan).map Edit.key)

variable [DecidableEq κ]

def Edit.write (edit : Edit κ ν) (table : κ → Option ν) : κ → Option ν :=
  Function.update table edit.key edit.value

def writeAll : List (Edit κ ν) → (κ → Option ν) → κ → Option ν
  | [], table => table
  | edit :: rest, table => writeAll rest (edit.write table)

/-- A run of a plan, with whether it came to the end. It stops at an edit that does not
fit, and an unsteady one stops anywhere. -/
inductive EditRun (steady : Prop) : List (Edit κ ν) → (κ → Option ν) → Bool → (κ → Option ν) → Prop where
  | finished (table : κ → Option ν) : EditRun steady [] table true table
  | edited {edit : Edit κ ν} {rest : List (Edit κ ν)} {table after : κ → Option ν} {ended : Bool}
      (fits : edit.fits (table edit.key) = true) (more : EditRun steady rest (edit.write table) ended after) :
      EditRun steady (edit :: rest) table ended after
  | refused {edit : Edit κ ν} {rest : List (Edit κ ν)} {table : κ → Option ν}
      (unfit : edit.fits (table edit.key) = false) : EditRun steady (edit :: rest) table false table
  | stopped (plan : List (Edit κ ν)) (table : κ → Option ν) (unsteady : ¬ steady) : EditRun steady plan table false table

section Write

variable {plan front back : List (Edit κ ν)} {edit : Edit κ ν} {table : κ → Option ν} {key : κ}

theorem writeAll_append (front back : List (Edit κ ν)) (table : κ → Option ν) :
    writeAll (front ++ back) table = writeAll back (writeAll front table) := by
  induction front generalizing table with
  | nil => rfl
  | cons first rest ih => exact ih (first.write table)

/-- A plan leaves the other entries alone. -/
theorem writeAll_beside (beside : key ∉ plan.map Edit.key) : writeAll plan table key = table key := by
  induction plan generalizing table with
  | nil => rfl
  | cons first rest ih =>
    obtain ⟨other, behind⟩ : key ≠ first.key ∧ key ∉ rest.map Edit.key := by simpa using beside
    unfold writeAll
    rw [ih behind]
    exact Function.update_of_ne other _ _

/-- A plan leaves each of its entries as its edit says. -/
theorem writeAll_at (apart : Apart plan) (member : edit ∈ plan) : writeAll plan table edit.key = edit.value := by
  induction plan generalizing table with
  | nil => cases member
  | cons first rest ih =>
    rcases List.mem_cons.mp member with rfl | later
    · unfold writeAll
      rw [writeAll_beside (List.nodup_cons.mp apart).1]
      exact Function.update_self ..
    · exact ih apart.tail later

/-- Edits that have been made change nothing. -/
theorem writeAll_settled (settled : ∀ edit ∈ plan, table edit.key = edit.value) : writeAll plan table = table := by
  induction plan with
  | nil => rfl
  | cons first rest ih =>
    have same : first.write table = table := by
      unfold Edit.write
      rw [← settled first List.mem_cons_self, Function.update_eq_self]
    unfold writeAll
    rw [same]
    exact ih fun edit member => settled edit (List.mem_cons_of_mem _ member)

/-- The first edits of a plan, made once more in part or with more of them. -/
theorem writeAll_again (apart : Apart plan) (first second : Nat) :
    writeAll (plan.take second) (writeAll (plan.take first) table) = writeAll (plan.take (max first second)) table := by
  have made : ∀ count ≤ first, writeAll (plan.take count) (writeAll (plan.take first) table) =
      writeAll (plan.take first) table := by
    intro count within
    apply writeAll_settled
    intro edit member
    apply writeAll_at (apart.take first)
    rw [← Nat.min_eq_left within, ← List.take_take] at member
    exact List.mem_of_mem_take member
  rcases Nat.le_total second first with within | beyond
  · rw [made second within, Nat.max_eq_left within]
  · have front : plan.take first = (plan.take second).take first := by rw [List.take_take, Nat.min_eq_left beyond]
    have split : plan.take second = plan.take first ++ (plan.take second).drop first := by
      rw [front, List.take_append_drop]
    rw [split, writeAll_append, made first (Nat.le_refl _), ← writeAll_append, ← split, Nat.max_eq_right beyond]

end Write

section Run

variable {steady : Prop} {plan : List (Edit κ ν)} {edit : Edit κ ν} {start table after : κ → Option ν} {ended : Bool}
  {count : Nat}

/-- What a run has made: the first edits of the plan, each of which fitted. A run that comes
to the end has made them all, and a steady one stops at an edit that does not fit. -/
structure EditRun.Made (steady : Prop) (plan : List (Edit κ ν)) (table after : κ → Option ν) (ended : Bool) (count : Nat) :
    Prop where
  within : count ≤ plan.length
  written : after = writeAll (plan.take count) table
  fitted : ∀ edit ∈ plan.take count, edit.fits (table edit.key) = true
  complete : ended = true → count = plan.length
  stuck : steady → ended = false → ∃ edit, plan[count]? = some edit ∧ edit.fits (table edit.key) = false

theorem EditRun.makes (run : EditRun steady plan table ended after) (apart : Apart plan) :
    ∃ count, EditRun.Made steady plan table after ended count := by
  induction run with
  | finished table =>
    exact ⟨0, ⟨Nat.le_refl _, rfl, by simp, fun _ => rfl, fun _ impossible => by cases impossible⟩⟩
  | @refused edit rest table unfit =>
    exact ⟨0, ⟨Nat.zero_le _, rfl, by simp, fun impossible => (by cases impossible), fun _ _ => ⟨edit, rfl, unfit⟩⟩⟩
  | stopped plan table unsteady =>
    exact ⟨0, ⟨Nat.zero_le _, rfl, by simp, fun impossible => (by cases impossible), fun still => absurd still unsteady⟩⟩
  | @edited edit rest table after ended fits more ih =>
    obtain ⟨count, made⟩ := ih apart.tail
    -- the edits behind the first one find their entries as they were
    have beside : ∀ other ∈ rest, edit.write table other.key = table other.key := by
      intro other member
      apply Function.update_of_ne
      intro same
      exact (List.nodup_cons.mp apart).1 (same ▸ List.mem_map_of_mem member)
    refine ⟨count + 1, Nat.succ_le_succ made.within, made.written, ?_, fun whole => congrArg (· + 1) (made.complete whole), ?_⟩
    · intro other member
      rw [List.take_succ_cons] at member
      rcases List.mem_cons.mp member with rfl | later
      · exact fits
      · rw [← beside other (List.mem_of_mem_take later)]
        exact made.fitted other later
    · intro still short
      obtain ⟨other, found, unfit⟩ := made.stuck still short
      rw [beside other (List.mem_of_getElem? found)] at unfit
      exact ⟨other, by simpa using found, unfit⟩

/-- An edit from further on in the plan finds its entry as it was at the start. -/
theorem writeAll_ahead (apart : Apart plan) {index : Nat} (found : plan[index]? = some edit) (ahead : count ≤ index) :
    writeAll (plan.take count) start edit.key = start edit.key := by
  apply writeAll_beside
  have later : edit ∈ plan.drop count := by
    apply List.mem_of_getElem? (i := index - count)
    rw [List.getElem?_drop, Nat.add_sub_cancel' ahead, found]
  have split : (plan.take count).map Edit.key ++ (plan.drop count).map Edit.key = plan.map Edit.key := by
    rw [← List.map_append, List.take_append_drop]
  have whole : (plan.map Edit.key).Nodup := apart
  rw [← split] at whole
  have disjoint := List.disjoint_of_nodup_append whole
  exact fun earlier => disjoint earlier (List.mem_map_of_mem later)

/-- Where the first edits have been made, any run leaves first edits made, and no fewer. -/
theorem EditRun.goesOn (run : EditRun steady plan (writeAll (plan.take count) start) ended after) (apart : Apart plan)
    (within : count ≤ plan.length) :
    ∃ more, count ≤ more ∧ more ≤ plan.length ∧ after = writeAll (plan.take more) start ∧
      (ended = true → more = plan.length) := by
  obtain ⟨made, makes⟩ := run.makes apart
  refine ⟨max count made, Nat.le_max_left .., Nat.max_le.mpr ⟨within, makes.within⟩, ?_, fun whole => ?_⟩
  · rw [makes.written, writeAll_again apart]
  · rw [makes.complete whole, Nat.max_eq_right within]

/-- Where the first edits have been made, and each of them finds what it asks for once more, a
steady run comes to the end. -/
theorem EditRun.completes (run : EditRun steady plan (writeAll (plan.take count) start) ended after) (still : steady)
    (apart : Apart plan) (fitting : ∀ edit ∈ plan, edit.fits (start edit.key) = true)
    (repeats : ∀ edit ∈ plan.take count, edit.Repeats) : ended = true := by
  obtain ⟨made, makes⟩ := run.makes apart
  by_contra short
  obtain ⟨edit, found, unfit⟩ := makes.stuck still (by simpa using short)
  rcases Nat.lt_or_ge made count with earlier | ahead
  · have member : edit ∈ plan.take count := by
      apply List.mem_of_getElem? (i := made)
      rw [List.getElem?_take_of_lt earlier, found]
    rw [writeAll_at (apart.take count) member, repeats edit member] at unfit
    cases unfit
  · rw [writeAll_ahead apart found ahead, fitting edit (List.mem_of_getElem? found)] at unfit
    cases unfit

/-- Where the first edits have been made, and one of them does not find what it asks for once
more, no run comes to the end, and none changes anything. -/
theorem EditRun.stays (run : EditRun steady plan (writeAll (plan.take count) start) ended after) (apart : Apart plan)
    (within : count ≤ plan.length) (once : ∃ edit ∈ plan.take count, ¬ edit.Repeats) :
    ended = false ∧ after = writeAll (plan.take count) start := by
  obtain ⟨made, makes⟩ := run.makes apart
  obtain ⟨edit, member, different⟩ := once
  have behind : made < count := by
    by_contra ahead
    apply different
    have again : edit ∈ plan.take made := by
      rw [← Nat.min_eq_left (Nat.not_lt.mp ahead), ← List.take_take] at member
      exact List.mem_of_mem_take member
    have fitted := makes.fitted edit again
    rw [writeAll_at (apart.take count) member] at fitted
    exact fitted
  constructor
  · by_contra whole
    have all := makes.complete (by simpa using whole)
    exact absurd (all ▸ behind) (Nat.not_lt.mpr within)
  · rw [makes.written, writeAll_again apart, Nat.max_eq_left (Nat.le_of_lt behind)]

end Run

end ControlTower.Foundation
