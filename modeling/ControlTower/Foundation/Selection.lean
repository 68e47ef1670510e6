import Mathlib.Data.List.Basic
import Mathlib.Order.Lattice

/-! Picking one element of a list by comparing each candidate with the best so far. -/

set_option autoImplicit false

namespace ControlTower.Foundation.Selection

variable {α : Type}

def improve (better : α → α → Bool) (best candidate : α) : α :=
  if better best candidate then candidate else best

/-- Scan a list from the left; `better best candidate` decides whether the
candidate replaces the best element seen so far. -/
def pick (better : α → α → Bool) : List α → Option α
  | [] => none
  | first :: rest => some (rest.foldl (improve better) first)

theorem foldl_improve_mem (better : α → α → Bool) (first : α) (rest : List α) :
    rest.foldl (improve better) first ∈ first :: rest := by
  induction rest generalizing first with
  | nil => simp
  | cons next rest ih =>
    rw [List.foldl_cons]
    have member := ih (improve better first next)
    rw [List.mem_cons] at member
    rcases member with same | later
    · rw [same, improve]
      split <;> simp
    · exact List.mem_cons_of_mem _ (List.mem_cons_of_mem _ later)

theorem pick_mem {better : α → α → Bool} {items : List α} {best : α}
    (picked : pick better items = some best) : best ∈ items := by
  cases items with
  | nil => cases picked
  | cons first rest =>
    cases picked
    exact foldl_improve_mem better first rest

theorem pick_eq_none {better : α → α → Bool} {items : List α} :
    pick better items = none ↔ items = [] := by
  cases items <;> simp [pick]

/-- An element that replaces every earlier one is picked when it stands last. -/
theorem pick_append_last {better : α → α → Bool} {items : List α} {last : α}
    (replaces : ∀ item ∈ items, better item last = true) :
    pick better (items ++ [last]) = some last := by
  cases items with
  | nil => rfl
  | cons first rest =>
    have best := replaces _ (foldl_improve_mem better first rest)
    simp [pick, List.foldl_append, improve, best]

/-- Picking by the greatest key, later elements first among equals. -/
theorem key_le_pick {key : α → Int} {better : α → α → Bool}
    (compares : ∀ best item, better best item = true ↔ key best ≤ key item) {items : List α} {best : α}
    (picked : pick better items = some best) : ∀ item ∈ items, key item ≤ key best := by
  have improved : ∀ first next item, key item ≤ key first ∨ key item ≤ key next →
      key item ≤ key (improve better first next) := by
    intro first next item bound
    unfold improve
    by_cases replaces : better first next = true
    · rw [if_pos replaces]
      have above := (compares first next).mp replaces
      omega
    · rw [if_neg replaces]
      have less : ¬ key first ≤ key next := fun above => replaces ((compares first next).mpr above)
      omega
  -- no item met so far is above the best of the scan
  have scanned : ∀ (rest : List α) (first : α), ∀ item ∈ first :: rest,
      key item ≤ key (rest.foldl (improve better) first) := by
    intro rest
    induction rest with
    | nil => simp
    | cons next rest ih =>
      intro first item member
      rw [List.foldl_cons]
      have scan := ih (improve better first next)
      rw [List.mem_cons, List.mem_cons] at member
      rcases member with rfl | rfl | later
      · exact Int.le_trans (improved _ _ _ (.inl (Int.le_refl _))) (scan _ List.mem_cons_self)
      · exact Int.le_trans (improved _ _ _ (.inr (Int.le_refl _))) (scan _ List.mem_cons_self)
      · exact scan _ (List.mem_cons_of_mem _ later)
  cases items with
  | nil => cases picked
  | cons first rest =>
    cases picked
    exact scanned rest first

/-- Picking by a strict comparison of keys picks an element with the greatest key. -/
theorem key_le_greatest {β : Type} [LinearOrder β] {key : α → β} {better : α → α → Bool}
    (compares : ∀ best item, better best item = true ↔ key best < key item) {items : List α} {best : α}
    (picked : pick better items = some best) : ∀ item ∈ items, key item ≤ key best := by
  have improved (first next : α) : key first ≤ key (improve better first next) ∧
      key next ≤ key (improve better first next) := by
    unfold improve
    by_cases replaces : better first next = true
    · rw [if_pos replaces]
      exact ⟨le_of_lt ((compares first next).mp replaces), le_refl _⟩
    · rw [if_neg replaces]
      exact ⟨le_refl _, not_lt.mp fun above => replaces ((compares first next).mpr above)⟩
  have scanned (rest : List α) (first : α) : ∀ item ∈ first :: rest, key item ≤ key (rest.foldl (improve better) first) := by
    induction rest generalizing first with
    | nil => simp
    | cons next rest ih =>
      intro item member
      rw [List.foldl_cons]
      have scan := ih (improve better first next)
      rw [List.mem_cons, List.mem_cons] at member
      rcases member with rfl | rfl | later
      · exact le_trans (improved _ _).1 (scan _ List.mem_cons_self)
      · exact le_trans (improved _ _).2 (scan _ List.mem_cons_self)
      · exact scan _ (List.mem_cons_of_mem _ later)
  cases items with
  | nil => cases picked
  | cons first rest =>
    cases picked
    exact scanned rest first

end ControlTower.Foundation.Selection
