import Mathlib.Algebra.Order.Field.Basic
import Mathlib.Algebra.Order.BigOperators.Group.List
import Mathlib.Tactic.Linarith
import Mathlib.Tactic.Positivity
import Mathlib.Tactic.Ring

/-! Parts of a whole, means and harmonic means of numbers between zero and one, and
rows that are distributed over bins. -/

set_option autoImplicit false

namespace ControlTower.Foundation.Means

section Fractions

variable {K : Type} [Field K] [LinearOrder K] [IsStrictOrderedRing K]

/-- A number between zero and one. -/
def InUnit (value : K) : Prop := 0 ≤ value ∧ value ≤ 1

theorem unit_zero : InUnit (0 : K) := ⟨le_refl 0, zero_le_one⟩

theorem unit_part {part whole : K} (nonnegative : 0 ≤ part) (bounded : part ≤ whole) : InUnit (part / whole) := by
  constructor
  · exact div_nonneg nonnegative (le_trans nonnegative bounded)
  · exact div_le_one_of_le₀ bounded (le_trans nonnegative bounded)

theorem unit_square {value : K} (low : -1 ≤ value) (high : value ≤ 1) : InUnit (value ^ 2) := by
  constructor
  · exact sq_nonneg value
  · exact (sq_le_one_iff_abs_le_one value).mpr (abs_le.mpr ⟨low, high⟩)

theorem unit_clamp (value : K) : InUnit (min 1 (max 0 value)) := by
  constructor
  · exact le_min zero_le_one (le_max_left 0 value)
  · exact min_le_left 1 _

theorem unit_distance {first second : K} (one : InUnit first) (other : InUnit second) : InUnit |first - second| := by
  constructor
  · exact abs_nonneg _
  · apply abs_le.mpr
    constructor
    · linarith [one.1, other.2]
    · linarith [one.2, other.1]

theorem sum_bounded {values : List K} (each : ∀ value ∈ values, InUnit value) :
    0 ≤ values.sum ∧ values.sum ≤ values.length := by
  induction values with
  | nil => simp
  | cons value rest ih =>
    have first := each value List.mem_cons_self
    have others := ih fun other member => each other (List.mem_cons_of_mem _ member)
    rw [List.sum_cons, List.length_cons, Nat.cast_succ]
    constructor
    · exact add_nonneg first.1 others.1
    · rw [add_comm]
      exact add_le_add others.2 first.2

/-- The mean of numbers between zero and one is between zero and one. -/
theorem unit_mean {values : List K} (each : ∀ value ∈ values, InUnit value) {count : Nat} (size : values.length = count) :
    InUnit (values.sum / count) := by
  subst size
  have bounds := sum_bounded each
  exact unit_part bounds.1 bounds.2

theorem harmonic_mean_bounds {first second : K} (one : 0 ≤ first) (other : 0 ≤ second) (positive : first + second ≠ 0) :
    min first second ≤ 2 * first * second / (first + second) ∧
      2 * first * second / (first + second) ≤ max first second := by
  have whole : 0 < first + second := lt_of_le_of_ne (add_nonneg one other) (Ne.symm positive)
  rcases le_total first second with order | order
  · rw [min_eq_left order, max_eq_right order, le_div_iff₀ whole, div_le_iff₀ whole]
    constructor
    · nlinarith [mul_nonneg one (sub_nonneg.mpr order)]
    · nlinarith [mul_nonneg other (sub_nonneg.mpr order)]
  · rw [min_eq_right order, max_eq_left order, le_div_iff₀ whole, div_le_iff₀ whole]
    constructor
    · nlinarith [mul_nonneg other (sub_nonneg.mpr order)]
    · nlinarith [mul_nonneg one (sub_nonneg.mpr order)]

/-- With the quotient zero where both numbers are. -/
theorem harmonic_bounds {first second : K} (one : 0 ≤ first) (other : 0 ≤ second) :
    min first second ≤ 2 * first * second / (first + second) ∧
      2 * first * second / (first + second) ≤ max first second := by
  by_cases zero : first + second = 0
  · rw [zero, div_zero]
    constructor
    · exact le_trans (min_le_left first second) (by linarith)
    · exact le_trans one (le_max_left first second)
  · exact harmonic_mean_bounds one other zero

end Fractions

section Bins

variable {α : Type}

/-- Put a row into the bin at an index. -/
def put (bins : List (List α)) (index : Nat) (row : α) : List (List α) := bins.modify index (· ++ [row])

theorem length_put (bins : List (List α)) (index : Nat) (row : α) : (put bins index row).length = bins.length :=
  List.length_modify _ _ _

/-- A row that is put into an existing bin is in the bins once more. -/
theorem put_flatten_perm {bins : List (List α)} {index : Nat} (inside : index < bins.length) (row : α) :
    (put bins index row).flatten.Perm (row :: bins.flatten) := by
  induction bins generalizing index with
  | nil => cases inside
  | cons first rest ih =>
    cases index with
    | zero =>
      have shape : put (first :: rest) 0 row = (first ++ [row]) :: rest := rfl
      rw [shape, List.flatten_cons, List.flatten_cons, List.append_assoc]
      exact List.perm_middle
    | succ index =>
      have shape : put (first :: rest) (index + 1) row = first :: put rest index row := rfl
      rw [shape, List.flatten_cons, List.flatten_cons]
      exact ((ih (Nat.lt_of_succ_lt_succ inside)).append_left first).trans List.perm_middle

/-- Only the bin at the index gets the row. -/
theorem put_get {bins : List (List α)} {index : Nat} (inside : index < bins.length) (row : α) (other : Nat) :
    (put bins index row)[other]?.getD [] = bins[other]?.getD [] ++ if other = index then [row] else [] := by
  unfold put
  by_cases same : other = index
  · subst same
    rw [List.getElem?_modify_eq, List.getElem?_eq_getElem inside, if_pos rfl]
    rfl
  · rw [List.getElem?_modify_ne _ _ (Ne.symm same), if_neg same, List.append_nil]

end Bins

section Shares

variable {κ α : Type}

/-- Items that each belong to one of the keys are counted once over all keys. -/
theorem sum_filter_length {keys : List κ} {belongs : κ → α → Bool} {items : List α}
    (once : ∀ item ∈ items, keys.countP (belongs · item) = 1) :
    (keys.map fun key => (items.filter (belongs key)).length).sum = items.length := by
  induction items with
  | nil => simp
  | cons item rest ih =>
    have step (keys : List κ) : (keys.map fun key => ((item :: rest).filter (belongs key)).length).sum =
        keys.countP (belongs · item) + (keys.map fun key => (rest.filter (belongs key)).length).sum := by
      induction keys with
      | nil => rfl
      | cons key keys ih =>
        rw [List.map_cons, List.sum_cons, ih, List.map_cons, List.sum_cons, List.countP_cons, List.filter_cons]
        by_cases here : belongs key item = true
        · rw [if_pos here, if_pos here, List.length_cons]
          omega
        · rw [if_neg here, if_neg here]
          omega
    rw [step, once item List.mem_cons_self, ih fun other member => once other (List.mem_cons_of_mem _ member),
      List.length_cons, Nat.add_comm]

/-- An item belongs to the one key that is its own. -/
theorem countP_own [DecidableEq κ] {keys : List κ} (distinct : keys.Nodup) {belongs : κ → Bool} {own : κ}
    (listed : own ∈ keys) (only_own : ∀ key, belongs key = true ↔ key = own) : keys.countP belongs = 1 := by
  have same : belongs = (· == own) := by
    funext key
    rw [Bool.eq_iff_iff, only_own, beq_iff_eq]
  rw [same]
  exact List.count_eq_one_of_mem distinct listed

/-- An item that belongs to one of the keys is found once over all keys. -/
theorem sum_count_once [DecidableEq α] {keys : List κ} {belongs : κ → α → Bool} {items : List α} (distinct : items.Nodup)
    {item : α} (present : item ∈ items) (once : keys.countP (belongs · item) = 1) :
    (keys.map fun key => (items.filter (belongs key)).count item).sum = 1 := by
  have alone : items.filter (· == item) = [item] := by
    have size : (items.filter (· == item)).length = 1 := by
      rw [← List.countP_eq_length_filter]
      exact List.count_eq_one_of_mem distinct present
    obtain ⟨other, only_other⟩ := List.length_eq_one_iff.mp size
    have member : item ∈ items.filter (· == item) := List.mem_filter.mpr ⟨present, beq_self_eq_true item⟩
    rw [only_other] at member ⊢
    rw [List.mem_singleton.mp member]
  have counts (key : κ) : (items.filter (belongs key)).count item = ([item].filter (belongs key)).length := by
    rw [List.count, List.countP_eq_length_filter, List.filter_filter, ← alone, List.filter_filter]
    congr 2
    funext other
    exact Bool.and_comm _ _
  simp only [counts]
  apply sum_filter_length
  intro other member
  rw [List.mem_singleton.mp member]
  exact once

/-- What is selected from items keeps their order under a name. -/
theorem filterMap_sublist {β γ : Type} {select : α → Option β} {name : β → γ} {other : α → γ}
    (named : ∀ item value, select item = some value → name value = other item) (items : List α) :
    ((items.filterMap select).map name).Sublist (items.map other) := by
  induction items with
  | nil => exact List.Sublist.slnil
  | cons item rest ih =>
    cases selected : select item with
    | none =>
      rw [List.filterMap_cons_none selected]
      exact List.Sublist.cons _ ih
    | some value =>
      rw [List.filterMap_cons_some selected, List.map_cons, List.map_cons, named item value selected]
      exact List.Sublist.cons_cons _ ih

end Shares

end ControlTower.Foundation.Means
