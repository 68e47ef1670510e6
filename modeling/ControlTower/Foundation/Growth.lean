import ControlTower.Foundation.Table

/-! Tables that rows are only added to. -/

set_option autoImplicit false

namespace ControlTower.Foundation

variable {κ α : Type} [DecidableEq κ] {table middle later : Table κ α}

/-- Every row of the table stands in the later one. -/
def Table.Grows (table later : Table κ α) : Prop :=
  ∀ key value, table.get? key = some value → later.get? key = some value

namespace Table.Grows

theorem refl (table : Table κ α) : table.Grows table := fun _ _ stored => stored

theorem of_eq (same : later = table) : table.Grows later := by
  rw [same]
  exact refl table

theorem trans (start : table.Grows middle) (rest : middle.Grows later) : table.Grows later :=
  fun key value stored => rest key value (start key value stored)

/-- A row under a new key disturbs no other. -/
theorem set {key : κ} (fresh : table.get? key = none) (value : α) : table.Grows (table.set key value) := by
  intro other stored present
  have different : other ≠ key := by
    rintro rfl
    rw [fresh] at present
    cases present
  rw [get?_set_other _ _ different]
  exact present

theorem keys (grows : table.Grows later) {key : κ} (present : key ∈ table.keys) : key ∈ later.keys := by
  obtain ⟨value, stored⟩ := mem_keys.mp present
  exact mem_keys.mpr ⟨value, grows key value stored⟩

end Table.Grows

end ControlTower.Foundation
