import Mathlib.Data.List.Basic
import Mathlib.Data.List.Nodup

/-! Loops over a plan that stop right after the first item that does not go well. -/

set_option autoImplicit false

namespace ControlTower.Foundation

variable {Item Outcome : Type} {good : Outcome → Bool} {plan : List Item} {ran : List (Item × Outcome)}

/-- The items that were carried out, each with its outcome. -/
structure StopsAtFailure (good : Outcome → Bool) (plan : List Item) (ran : List (Item × Outcome)) : Prop where
  inOrder : ran.map Prod.fst <+: plan
  /-- After a failure nothing is carried out. -/
  stopped : ∀ step ∈ ran.dropLast, good step.2 = true
  /-- Nothing but a failure stops the loop. -/
  wentOn : ran.map Prod.fst = plan ∨ ∃ step, ran.getLast? = some step ∧ good step.2 = false

namespace StopsAtFailure

theorem nil : StopsAtFailure good ([] : List Item) [] where
  inOrder := List.prefix_rfl
  stopped := by
    intro step impossible
    cases impossible
  wentOn := .inl rfl

/-- An item that goes well, and the loop over the rest. -/
theorem cons_good {item : Item} {outcome : Outcome} (well : good outcome = true) (rest : StopsAtFailure good plan ran) :
    StopsAtFailure good (item :: plan) ((item, outcome) :: ran) where
  inOrder := by
    rw [List.map_cons]
    exact List.cons_prefix_cons.mpr ⟨rfl, rest.inOrder⟩
  stopped := by
    intro step member
    cases ran with
    | nil => cases member
    | cons first others =>
      rw [List.dropLast_cons_cons] at member
      rcases List.mem_cons.mp member with rfl | later
      · exact well
      · exact rest.stopped step later
  wentOn := by
    rcases rest.wentOn with whole | ⟨step, last, failed⟩
    · left
      rw [List.map_cons, whole]
    · right
      refine ⟨step, ?_, failed⟩
      cases ran with
      | nil => cases last
      | cons first others => rw [List.getLast?_cons_cons, last]

/-- An item that fails. -/
theorem failed {item : Item} {outcome : Outcome} (bad : good outcome = false) :
    StopsAtFailure good (item :: plan) [(item, outcome)] where
  inOrder := by
    rw [List.map_cons, List.map_nil]
    exact List.cons_prefix_cons.mpr ⟨rfl, List.nil_prefix⟩
  stopped := by
    intro step impossible
    cases impossible
  wentOn := .inr ⟨_, rfl, bad⟩

/-- As many items as the plan has, and all well: the plan was carried out. -/
theorem complete_iff (stops : StopsAtFailure good plan ran) :
    ((ran.all fun step => good step.2) && ran.length == plan.length) = true ↔
      ran.map Prod.fst = plan ∧ ∀ step ∈ ran, good step.2 = true := by
  rw [Bool.and_eq_true, List.all_eq_true, beq_iff_eq]
  constructor
  · intro ⟨well, size⟩
    refine ⟨?_, well⟩
    apply stops.inOrder.eq_of_length
    rw [List.length_map, size]
  · intro ⟨whole, well⟩
    refine ⟨well, ?_⟩
    rw [← whole, List.length_map]

end StopsAtFailure

end ControlTower.Foundation
