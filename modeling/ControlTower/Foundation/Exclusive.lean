import ControlTower.Foundation.Table

/-! Tables in which a subject is claimed by at most one row. -/

set_option autoImplicit false

namespace ControlTower.Foundation

variable {κ α β : Type} [DecidableEq κ] {claims : α → β → Prop} {table later : Table κ α}

/-- Two rows that claim the same subject are the same row. -/
def Exclusive (claims : α → β → Prop) (table : Table κ α) : Prop :=
  ∀ first second one other subject, table.get? first = some one → table.get? second = some other →
    claims one subject → claims other subject → first = second

/-- Nobody claims the subject. -/
def Unclaimed (claims : α → β → Prop) (table : Table κ α) (subject : β) : Prop :=
  ∀ key value, table.get? key = some value → ¬ claims value subject

/-- A row of the later table stood in the earlier one and claims nothing new. -/
def Table.OlderAt (claims : α → β → Prop) (table later : Table κ α) (key : κ) : Prop :=
  ∀ value, later.get? key = some value → ∃ before, table.get? key = some before ∧
    ∀ subject, claims value subject → claims before subject

theorem exclusive_empty : Exclusive claims (Table.empty : Table κ α) := by
  intro first second one other subject stored
  cases stored

namespace Exclusive

/-- Rows that claim nothing new stay exclusive. -/
theorem older (exclusive : Exclusive claims table) (older : ∀ key, table.OlderAt claims later key) :
    Exclusive claims later := by
  intro first second one other subject stored present claimed rival
  obtain ⟨before, known, kept⟩ := older first one stored
  obtain ⟨former, found, held⟩ := older second other present
  exact exclusive first second before former subject known found (kept subject claimed) (held subject rival)

/-- One new row may claim what nobody claims. -/
theorem welcome (exclusive : Exclusive claims table) (key : κ) (older : ∀ other, other ≠ key → table.OlderAt claims later other)
    (free : ∀ value, later.get? key = some value → ∀ subject, claims value subject → Unclaimed claims table subject) :
    Exclusive claims later := by
  have alone : ∀ second one other subject, later.get? key = some one → later.get? second = some other →
      claims one subject → claims other subject → key = second := by
    intro second one other subject stored present claimed rival
    by_contra different
    obtain ⟨former, found, held⟩ := older second (Ne.symm different) other present
    exact free one stored subject claimed second former found (held subject rival)
  intro first second one other subject stored present claimed rival
  by_cases here : first = key
  · subst here
    exact alone second one other subject stored present claimed rival
  · by_cases there : second = key
    · subst there
      exact (alone first other one subject present stored rival claimed).symm
    · obtain ⟨before, known, kept⟩ := older first here one stored
      obtain ⟨former, found, held⟩ := older second there other present
      exact exclusive first second before former subject known found (kept subject claimed) (held subject rival)

end Exclusive

end ControlTower.Foundation
