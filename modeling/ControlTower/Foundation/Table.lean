import Mathlib.Algebra.BigOperators.Group.List.Basic
import Mathlib.Data.List.Nodup
import Mathlib.Data.List.Sort

/-! Finite tables in insertion order, with at most one row for each key.
Writing a known key replaces its row where it stands; a new key is appended. -/

set_option autoImplicit false

namespace ControlTower.Foundation

variable {κ α β : Type}

structure Table (κ α : Type) where
  rows : List (κ × α)
  distinct : (rows.map Prod.fst).Nodup

namespace Table

def empty : Table κ α := ⟨[], List.nodup_nil⟩

def keys (table : Table κ α) : List κ := table.rows.map Prod.fst

def values (table : Table κ α) : List α := table.rows.map Prod.snd

/-- Change every row without touching the keys. -/
def mapValues (f : κ → α → β) (table : Table κ α) : Table κ β :=
  ⟨table.rows.map fun row => (row.1, f row.1 row.2), by
    simpa [List.map_map, Function.comp_def] using table.distinct⟩

/-- The rows whose keys are kept. -/
def keep (retained : κ → Bool) (table : Table κ α) : Table κ α :=
  ⟨table.rows.filter fun row => retained row.1,
    table.distinct.sublist (List.filter_sublist.map Prod.fst)⟩

/-- The rows in the ascending order of their keys. -/
def byKey [LinearOrder κ] (table : Table κ α) : Table κ α :=
  ⟨table.rows.insertionSort fun row other => row.1 ≤ other.1,
    ((List.perm_insertionSort _ table.rows).map Prod.fst).nodup_iff.mpr table.distinct⟩

theorem byKey_perm [LinearOrder κ] (table : Table κ α) : table.byKey.values.Perm table.values :=
  (List.perm_insertionSort _ table.rows).map Prod.snd

theorem values_mapValues (change : α → β) (table : Table κ α) :
    (table.mapValues fun _ value => change value).values = table.values.map change := by
  simp [values, mapValues]

variable [DecidableEq κ]

def lookup (key : κ) : List (κ × α) → Option α
  | [] => none
  | row :: rest => if row.1 = key then some row.2 else lookup key rest

def write (key : κ) (value : α) : List (κ × α) → List (κ × α)
  | [] => [(key, value)]
  | row :: rest => if row.1 = key then (key, value) :: rest else row :: write key value rest

theorem write_keys (key : κ) (value : α) (rows : List (κ × α)) :
    (write key value rows).map Prod.fst =
      if key ∈ rows.map Prod.fst then rows.map Prod.fst else rows.map Prod.fst ++ [key] := by
  induction rows with
  | nil => rfl
  | cons row rest ih =>
    by_cases same : row.1 = key
    · simp [write, same]
    · have other : ¬ key = row.1 := fun equal => same equal.symm
      simp only [write, same, if_false, List.map_cons, ih, List.mem_cons, other, false_or]
      split <;> simp

theorem write_distinct (key : κ) (value : α) {rows : List (κ × α)}
    (distinct : (rows.map Prod.fst).Nodup) : ((write key value rows).map Prod.fst).Nodup := by
  rw [write_keys]
  split
  · exact distinct
  · rename_i absent
    exact List.nodup_append.mpr ⟨distinct, List.nodup_singleton key, by
      intro left present right single same
      rw [List.mem_singleton] at single
      exact absent (single ▸ same ▸ present)⟩

def get? (table : Table κ α) (key : κ) : Option α := lookup key table.rows

def set (table : Table κ α) (key : κ) (value : α) : Table κ α :=
  ⟨write key value table.rows, write_distinct key value table.distinct⟩

@[simp] theorem get?_empty (key : κ) : (empty : Table κ α).get? key = none := rfl

theorem lookup_write (rows : List (κ × α)) (key other : κ) (value : α) :
    lookup other (write key value rows) = if other = key then some value else lookup other rows := by
  induction rows with
  | nil =>
    by_cases same : other = key
    · simp [write, lookup, same]
    · simp [write, lookup, same, Ne.symm same]
  | cons row rest ih =>
    by_cases here : row.1 = key
    · by_cases same : other = key
      · simp [write, lookup, here, same]
      · simp [write, lookup, here, same, Ne.symm same]
    · by_cases same : other = key
      · subst same
        simp [write, lookup, here, ih]
      · simp only [write, here, if_false, lookup, ih, same]

@[simp] theorem get?_set (table : Table κ α) (key other : κ) (value : α) :
    (table.set key value).get? other = if other = key then some value else table.get? other :=
  lookup_write table.rows key other value

theorem get?_set_self (table : Table κ α) (key : κ) (value : α) :
    (table.set key value).get? key = some value := by simp

theorem get?_set_other (table : Table κ α) {key other : κ} (value : α) (different : other ≠ key) :
    (table.set key value).get? other = table.get? other := by simp [different]

theorem lookup_map (f : κ → α → β) (rows : List (κ × α)) (key : κ) :
    lookup key (rows.map fun row => (row.1, f row.1 row.2)) = (lookup key rows).map (f key) := by
  induction rows with
  | nil => rfl
  | cons row rest ih =>
    by_cases here : row.1 = key
    · simp [lookup, here]
    · simp [lookup, here, ih]

@[simp] theorem get?_mapValues (f : κ → α → β) (table : Table κ α) (key : κ) :
    (table.mapValues f).get? key = (table.get? key).map (f key) :=
  lookup_map f table.rows key

/-- Change the row of one key, if there is one. -/
def adjust (table : Table κ α) (key : κ) (change : α → α) : Table κ α :=
  table.mapValues fun other value => if other = key then change value else value

@[simp] theorem keys_adjust (table : Table κ α) (key : κ) (change : α → α) :
    (table.adjust key change).keys = table.keys := by
  simp [keys, adjust, mapValues]

@[simp] theorem get?_adjust (table : Table κ α) (key other : κ) (change : α → α) :
    (table.adjust key change).get? other =
      if other = key then (table.get? other).map change else table.get? other := by
  by_cases same : other = key
  · subst same
    simp [adjust]
  · simp [adjust, same]

theorem lookup_filter (retained : κ → Bool) (rows : List (κ × α)) (key : κ) :
    lookup key (rows.filter fun row => retained row.1) = if retained key then lookup key rows else none := by
  induction rows with
  | nil => simp [lookup]
  | cons row rest ih =>
    by_cases here : row.1 = key
    · by_cases held : retained key
      · simp [lookup, here, held]
      · simp [here, held, ih]
    · by_cases held : retained row.1
      · simp [lookup, here, held, ih]
      · simp [lookup, here, held, ih]

@[simp] theorem get?_keep (retained : κ → Bool) (table : Table κ α) (key : κ) :
    (table.keep retained).get? key = if retained key then table.get? key else none :=
  lookup_filter retained table.rows key

theorem lookup_eq_some {rows : List (κ × α)} (distinct : (rows.map Prod.fst).Nodup)
    {key : κ} {value : α} : lookup key rows = some value ↔ (key, value) ∈ rows := by
  induction rows with
  | nil => simp [lookup]
  | cons row rest ih =>
    obtain ⟨head, first⟩ := row
    simp only [List.map_cons, List.nodup_cons] at distinct
    by_cases here : head = key
    · subst here
      have absent : (head, value) ∉ rest := fun member =>
        distinct.1 (List.mem_map_of_mem member)
      simp [lookup, absent, eq_comm]
    · simp [lookup, here, ih distinct.2, Ne.symm here]

theorem get?_eq_some {table : Table κ α} {key : κ} {value : α} :
    table.get? key = some value ↔ (key, value) ∈ table.rows :=
  lookup_eq_some table.distinct

theorem mem_values {table : Table κ α} {value : α} :
    value ∈ table.values ↔ ∃ key, table.get? key = some value := by
  simp only [values, List.mem_map, get?_eq_some, Prod.exists]
  constructor
  · rintro ⟨key, stored, member, rfl⟩
    exact ⟨key, member⟩
  · rintro ⟨key, member⟩
    exact ⟨key, value, member, rfl⟩

/-- A row that a search over the values finds. -/
theorem find?_values {table : Table κ α} {test : α → Bool} {value : α}
    (found : table.values.find? test = some value) : test value = true ∧ ∃ key, table.get? key = some value :=
  ⟨List.find?_some found, mem_values.mp (List.mem_of_find?_eq_some found)⟩

theorem mapValues_adjust (view : α → β) (table : Table κ α) (key : κ) (change : α → α) :
    ((table.adjust key change).mapValues fun _ value => view value) =
      table.mapValues fun other value => if other = key then view (change value) else view value := by
  simp only [adjust, mapValues, List.map_map, Table.mk.injEq]
  apply List.map_congr_left
  intro row _
  simp only [Function.comp_apply, Prod.mk.injEq, true_and]
  split <;> rfl

/-- A view that a change of one row does not disturb. -/
theorem mapValues_adjust_same {view : α → β} (table : Table κ α) (key : κ) {change : α → α}
    (same : ∀ value, view (change value) = view value) :
    ((table.adjust key change).mapValues fun _ value => view value) = table.mapValues fun _ value => view value := by
  rw [mapValues_adjust]
  simp only [same, ite_self]

/-- A search that a change of one row does not disturb finds the same view of the row. -/
theorem find?_adjust {view : α → β} {test : α → Bool} (table : Table κ α) (key : κ) {change : α → α}
    (tested : ∀ value, test (change value) = test value) (seen : ∀ value, view (change value) = view value) :
    ((table.adjust key change).values.find? test).map view = (table.values.find? test).map view := by
  obtain ⟨rows, distinct⟩ := table
  simp only [values, adjust, mapValues, List.map_map]
  clear distinct
  induction rows with
  | nil => rfl
  | cons row rest ih =>
    by_cases here : row.1 = key <;> by_cases passes : test row.2 = true <;>
      simp_all [Function.comp_def]

/-- A change that leaves the row of its key as it is leaves the table. -/
theorem adjust_unchanged {table : Table κ α} {key : κ} {change : α → α} {value : α}
    (stored : table.get? key = some value) (same : change value = value) : table.adjust key change = table := by
  obtain ⟨rows, distinct⟩ := table
  have each : ∀ row ∈ rows, (row.1, if row.1 = key then change row.2 else row.2) = row := by
    intro row member
    by_cases here : row.1 = key
    · have found : lookup key rows = some row.2 := (lookup_eq_some distinct).mpr (here ▸ member)
      have held : row.2 = value := Option.some.inj (found.symm.trans stored)
      rw [if_pos here, held, same, ← held]
    · rw [if_neg here]
  have rows_same : rows.map (fun row => (row.1, if row.1 = key then change row.2 else row.2)) = rows :=
    (List.map_congr_left each).trans (List.map_id rows)
  simp only [adjust, mapValues, rows_same]

theorem mem_keys {table : Table κ α} {key : κ} :
    key ∈ table.keys ↔ ∃ value, table.get? key = some value := by
  simp only [keys, List.mem_map, get?_eq_some, Prod.exists]
  constructor
  · rintro ⟨stored, value, member, rfl⟩
    exact ⟨value, member⟩
  · rintro ⟨value, member⟩
    exact ⟨key, value, member, rfl⟩

theorem get?_eq_none {table : Table κ α} {key : κ} :
    table.get? key = none ↔ key ∉ table.keys := by
  rw [mem_keys]
  cases found : table.get? key <;> simp

theorem get?_of_fresh {table : Table κ α} {key : κ} (fresh : key ∉ table.keys) :
    table.get? key = none :=
  get?_eq_none.mpr fresh

theorem keys_set (table : Table κ α) (key : κ) (value : α) :
    (table.set key value).keys = if key ∈ table.keys then table.keys else table.keys ++ [key] :=
  write_keys key value table.rows

theorem keys_set_known {table : Table κ α} {key : κ} (value : α) (known : key ∈ table.keys) :
    (table.set key value).keys = table.keys := by
  rw [keys_set, if_pos known]

theorem write_fresh {key : κ} (value : α) {rows : List (κ × α)} (fresh : key ∉ rows.map Prod.fst) :
    write key value rows = rows ++ [(key, value)] := by
  induction rows with
  | nil => rfl
  | cons row rest ih =>
    simp only [List.map_cons, List.mem_cons, not_or] at fresh
    have here : ¬ row.1 = key := fun same => fresh.1 same.symm
    simp [write, here, ih fresh.2]

/-- A fresh row stands after every row already there. -/
theorem values_set_fresh {table : Table κ α} {key : κ} (value : α) (fresh : key ∉ table.keys) :
    (table.set key value).values = table.values ++ [value] := by
  simp only [values, set, write_fresh value fresh, List.map_append, List.map_cons, List.map_nil]

section Total

variable {M : Type} [AddCommMonoid M]

/-- The sum of an amount over all rows. -/
def total (table : Table κ α) (amount : κ → α → M) : M := (table.rows.map fun row => amount row.1 row.2).sum

/-- A fresh row adds its amount. -/
theorem total_set_fresh {table : Table κ α} {key : κ} (value : α) (fresh : key ∉ table.keys)
    (amount : κ → α → M) : (table.set key value).total amount = table.total amount + amount key value := by
  simp only [total, set, write_fresh value fresh, List.map_append, List.sum_append, List.map_cons, List.map_nil,
    List.sum_cons, List.sum_nil, add_zero]

/-- Amounts that agree on the rows of a table have the same total. -/
theorem total_congr {table : Table κ α} {amount other : κ → α → M}
    (same : ∀ key value, table.get? key = some value → amount key value = other key value) :
    table.total amount = table.total other := by
  unfold total
  refine congrArg List.sum (List.map_congr_left fun row member => same row.1 row.2 ?_)
  exact lookup_eq_some table.distinct |>.mpr member

/-- A table that no amount touches has nothing in total. -/
theorem total_eq_zero {table : Table κ α} {amount : κ → α → M}
    (none_ : ∀ key value, table.get? key = some value → amount key value = 0) : table.total amount = 0 := by
  have nothing : table.total amount = table.total fun _ _ => (0 : M) := total_congr none_
  rw [nothing]
  simp [total]

end Total

/-- Tables with the same rows in any order find the same. -/
theorem get?_of_perm {first second : Table κ α} (perm : first.rows.Perm second.rows) (key : κ) :
    first.get? key = second.get? key := by
  cases found : first.get? key with
  | none =>
    cases other : second.get? key with
    | none => rfl
    | some value =>
      have present := get?_eq_some.mpr (perm.mem_iff.mpr (get?_eq_some.mp other))
      rw [found] at present
      cases present
  | some value => exact (get?_eq_some.mpr (perm.mem_iff.mp (get?_eq_some.mp found))).symm

theorem get?_byKey [LinearOrder κ] (table : Table κ α) (key : κ) : table.byKey.get? key = table.get? key :=
  get?_of_perm (List.perm_insertionSort _ table.rows) key

/-- A mapping that succeeds on every item succeeds on a list. -/
theorem mapM_map_of_eq {γ : Type} {make : α → β} {read : β → Option γ} {result : α → γ}
    (reads : ∀ item, read (make item) = some (result item)) (items : List α) :
    (items.map make).mapM read = some (items.map result) := by
  induction items with
  | nil => rfl
  | cons item rest ih => simp [reads, ih]

omit [DecidableEq κ] in
theorem keys_of_mapM {read : α → Option β} {rows : List (κ × α)} {made : List (κ × β)}
    (done : rows.mapM (fun row => (read row.2).map fun value => (row.1, value)) = some made) :
    made.map Prod.fst = rows.map Prod.fst := by
  induction rows generalizing made with
  | nil =>
    cases done
    rfl
  | cons row rest ih =>
    simp only [List.mapM_cons, Option.pure_def, Option.bind_eq_bind, Option.bind_eq_some_iff,
      Option.map_eq_some_iff] at done
    obtain ⟨_, ⟨value, -, rfl⟩, others, kept, same⟩ := done
    cases same
    simp [ih kept]

theorem lookup_of_mapM {read : α → Option β} {rows : List (κ × α)} {made : List (κ × β)}
    (done : rows.mapM (fun row => (read row.2).map fun value => (row.1, value)) = some made) (key : κ) :
    lookup key made = (lookup key rows).bind read := by
  induction rows generalizing made with
  | nil =>
    cases done
    rfl
  | cons row rest ih =>
    simp only [List.mapM_cons, Option.pure_def, Option.bind_eq_bind, Option.bind_eq_some_iff,
      Option.map_eq_some_iff] at done
    obtain ⟨_, ⟨value, read, rfl⟩, others, kept, same⟩ := done
    cases same
    by_cases here : row.1 = key
    · simp [lookup, here, read]
    · simp [lookup, here, ih kept]

/-- Read every row; the table is made only where every reading succeeds. -/
def readAll (read : α → Option β) (table : Table κ α) : Option (Table κ β) :=
  match done : table.rows.mapM (fun row => (read row.2).map fun value => (row.1, value)) with
  | none => none
  | some made => some ⟨made, by rw [keys_of_mapM done]; exact table.distinct⟩

omit [DecidableEq κ] in
theorem readAll_some {read : α → Option β} {table : Table κ α} {made : Table κ β}
    (done : table.readAll read = some made) :
    table.rows.mapM (fun row => (read row.2).map fun value => (row.1, value)) = some made.rows := by
  unfold readAll at done
  split at done
  · cases done
  · cases done
    assumption

theorem readAll_get? {read : α → Option β} {table : Table κ α} {made : Table κ β}
    (done : table.readAll read = some made) (key : κ) : made.get? key = (table.get? key).bind read :=
  lookup_of_mapM (readAll_some done) key

omit [DecidableEq κ] in
theorem mapM_of_reads {read : α → Option β} {rows : List (κ × α)} (reads : ∀ row ∈ rows, ∃ value, read row.2 = some value) :
    ∃ made, rows.mapM (fun row => (read row.2).map fun value => (row.1, value)) = some made := by
  induction rows with
  | nil => exact ⟨[], rfl⟩
  | cons row rest ih =>
    obtain ⟨value, here⟩ := reads row List.mem_cons_self
    obtain ⟨others, kept⟩ := ih fun other member => reads other (List.mem_cons_of_mem _ member)
    exact ⟨(row.1, value) :: others, by simp [here, kept]⟩

/-- Reading succeeds where every row can be read. -/
theorem readAll_of_reads {read : α → Option β} {table : Table κ α}
    (reads : ∀ key value, table.get? key = some value → ∃ other, read value = some other) :
    ∃ made, table.readAll read = some made := by
  have each : ∀ row ∈ table.rows, ∃ other, read row.2 = some other := fun row member =>
    reads row.1 row.2 (get?_eq_some.mpr member)
  obtain ⟨rows, done⟩ := mapM_of_reads each
  unfold readAll
  split
  · next failed =>
    rw [done] at failed
    cases failed
  · exact ⟨_, rfl⟩

end Table

end ControlTower.Foundation
