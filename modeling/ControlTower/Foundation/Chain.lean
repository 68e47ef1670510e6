import Mathlib.Data.List.Sort
import Mathlib.Data.List.Range

/-! Chains of sealed entries. Each entry carries its number, the seal of the
entry before it, and its own seal: the digest of its material. Whoever knows
the last seal of a chain knows the material of every entry. -/

set_option autoImplicit false

namespace ControlTower.Foundation

/-- How an entry is numbered, linked and sealed. The material determines the
number and the link. -/
structure Sealing (α μ η : Type) where
  number : α → Int
  previous : α → Option η
  mark : α → η
  material : α → μ
  digest : μ → η
  numbered : ∀ entry other, material entry = material other → number entry = number other
  linked : ∀ entry other, material entry = material other → previous entry = previous other

namespace Sealing

variable {α μ η : Type} (sealing : Sealing α μ η)

/-- No two entries share a digest unless they share their material. -/
def Faithful : Prop :=
  ∀ entry other, sealing.digest (sealing.material entry) = sealing.digest (sealing.material other) →
    sealing.material entry = sealing.material other

def Sealed (entry : α) : Prop := sealing.digest (sealing.material entry) = sealing.mark entry

/-- Entries in order, after an entry with a given seal, the first one with a given number. -/
def Chained : Option η → Int → List α → Prop
  | _, _, [] => True
  | before, start, entry :: rest =>
      sealing.number entry = start ∧ sealing.previous entry = before ∧ sealing.Sealed entry ∧
        Chained (some (sealing.mark entry)) (start + 1) rest

/-- The seal that the next entry has to name. -/
def lastMark (before : Option η) (entries : List α) : Option η :=
  entries.foldl (fun _ entry => some (sealing.mark entry)) before

variable {sealing} {before : Option η} {start : Int} {entries : List α}

@[simp] theorem lastMark_nil : sealing.lastMark before [] = before := rfl

@[simp] theorem lastMark_concat (entry : α) :
    sealing.lastMark before (entries ++ [entry]) = some (sealing.mark entry) := by
  simp [lastMark]

theorem lastMark_eq : sealing.lastMark none entries = entries.getLast?.map sealing.mark := by
  induction entries using List.reverseRecOn with
  | nil => rfl
  | append_singleton entries entry _ => simp

theorem chained_concat (entry : α) :
    sealing.Chained before start (entries ++ [entry]) ↔
      sealing.Chained before start entries ∧ sealing.number entry = start + entries.length ∧
        sealing.previous entry = sealing.lastMark before entries ∧ sealing.Sealed entry := by
  induction entries generalizing before start with
  | nil => simp [Chained]
  | cons first rest ih =>
    have shift : start + 1 + (rest.length : Int) = start + ((first :: rest).length : Int) := by
      rw [List.length_cons]
      omega
    simp only [List.cons_append, Chained, ih, shift]
    constructor
    · rintro ⟨numbered, linked, marked, rest, last⟩
      exact ⟨⟨numbered, linked, marked, rest⟩, last⟩
    · rintro ⟨⟨numbered, linked, marked, rest⟩, last⟩
      exact ⟨numbered, linked, marked, rest, last⟩

namespace Chained

theorem «sealed» (chained : sealing.Chained before start entries) : ∀ entry ∈ entries, sealing.Sealed entry := by
  induction entries generalizing before start with
  | nil => simp
  | cons first rest ih =>
    intro entry member
    rcases List.mem_cons.mp member with rfl | later
    · exact chained.2.2.1
    · exact ih chained.2.2.2 entry later

/-- The numbers of a chain are consecutive. -/
theorem numbers (chained : sealing.Chained before start entries) :
    entries.map sealing.number = (List.range entries.length).map fun index : Nat => start + (index : Int) := by
  induction entries using List.reverseRecOn with
  | nil => rfl
  | append_singleton entries entry ih =>
    obtain ⟨rest, numbered, -⟩ := (chained_concat entry).mp chained
    simp [List.range_succ, ih rest, numbered]

theorem complete (chained : sealing.Chained before start entries) (number : Int) :
    (∃ entry ∈ entries, sealing.number entry = number) ↔ start ≤ number ∧ number < start + entries.length := by
  have member : (∃ entry ∈ entries, sealing.number entry = number) ↔ number ∈ entries.map sealing.number := by
    simp
  rw [member, chained.numbers]
  simp only [List.mem_map, List.mem_range]
  constructor
  · rintro ⟨index, bound, rfl⟩
    omega
  · rintro ⟨low, high⟩
    exact ⟨(number - start).toNat, by omega, by omega⟩

theorem nodup (chained : sealing.Chained before start entries) : (entries.map sealing.number).Nodup := by
  rw [chained.numbers]
  exact List.nodup_range.map fun left right same => by
    have same : start + (left : Int) = start + (right : Int) := same
    omega

theorem first (chained : sealing.Chained before start entries) :
    ∀ entry ∈ entries, sealing.number entry = start → sealing.previous entry = before := by
  cases entries with
  | nil => simp
  | cons head rest =>
    intro entry member same
    rcases List.mem_cons.mp member with rfl | later
    · exact chained.2.1
    · have bound := (chained.2.2.2.complete (sealing.number entry)).mp ⟨entry, later, rfl⟩
      omega

/-- Every entry names the seal of its predecessor. -/
theorem names (chained : sealing.Chained before start entries) :
    ∀ entry ∈ entries, ∀ next ∈ entries, sealing.number next = sealing.number entry + 1 →
      sealing.previous next = some (sealing.mark entry) := by
  induction entries generalizing before start with
  | nil => simp
  | cons head rest ih =>
    obtain ⟨numbered, -, -, tail⟩ := chained
    have later : ∀ entry ∈ rest, start + 1 ≤ sealing.number entry := fun entry member =>
      ((tail.complete _).mp ⟨entry, member, rfl⟩).1
    intro entry member next nextMember follows
    rcases List.mem_cons.mp nextMember with rfl | nextLater
    · -- the head has no predecessor in the list
      rcases List.mem_cons.mp member with rfl | entryLater
      · omega
      · have := later entry entryLater
        omega
    · rcases List.mem_cons.mp member with rfl | entryLater
      · exact tail.first next nextLater (by omega)
      · exact ih tail entry entryLater next nextLater follows

end Chained

/-- The entries of one unordered log, told apart by their numbers. -/
structure Intact (sealing : Sealing α μ η) (entries : List α) : Prop where
  complete : ∀ number, (∃ entry ∈ entries, sealing.number entry = number) ↔ 1 ≤ number ∧ number ≤ entries.length
  nodup : (entries.map sealing.number).Nodup
  «sealed» : ∀ entry ∈ entries, sealing.Sealed entry
  first : ∀ entry ∈ entries, sealing.number entry = 1 → sealing.previous entry = none
  names : ∀ entry ∈ entries, ∀ next ∈ entries, sealing.number next = sealing.number entry + 1 →
    sealing.previous next = some (sealing.mark entry)

def InOrder (sealing : Sealing α μ η) (entry other : α) : Prop := sealing.number entry ≤ sealing.number other

instance : DecidableRel sealing.InOrder := fun entry other => by
  unfold InOrder
  infer_instance

/-- The entries of a log by their numbers, equal numbers as they stand. -/
def inOrder (sealing : Sealing α μ η) (entries : List α) : List α := entries.insertionSort sealing.InOrder

theorem mem_inOrder {entry : α} : entry ∈ sealing.inOrder entries ↔ entry ∈ entries :=
  List.mem_insertionSort _

theorem length_inOrder : (sealing.inOrder entries).length = entries.length :=
  List.length_insertionSort _ _

/-- A log whose ordered entries form a chain is intact. -/
theorem Chained.intact (chained : sealing.Chained none 1 (sealing.inOrder entries)) : sealing.Intact entries where
  complete number := by
    have complete := chained.complete number
    simp only [mem_inOrder, length_inOrder] at complete
    rw [complete]
    constructor <;> rintro ⟨low, high⟩ <;> exact ⟨low, by omega⟩
  nodup := ((List.perm_insertionSort sealing.InOrder entries).map sealing.number).nodup_iff.mp chained.nodup
  «sealed» entry member := chained.sealed entry (mem_inOrder.mpr member)
  first entry member := chained.first entry (mem_inOrder.mpr member)
  names entry member next nextMember :=
    chained.names entry (mem_inOrder.mpr member) next (mem_inOrder.mpr nextMember)

/-- Entries in ascending order that are complete and linked form a chain. -/
theorem chained_of_complete (ascending : entries.Pairwise fun entry other => sealing.number entry < sealing.number other)
    (complete : ∀ number, (∃ entry ∈ entries, sealing.number entry = number) ↔
      start ≤ number ∧ number < start + entries.length)
    (marked : ∀ entry ∈ entries, sealing.Sealed entry)
    (first : ∀ entry ∈ entries, sealing.number entry = start → sealing.previous entry = before)
    (names : ∀ entry ∈ entries, ∀ next ∈ entries, sealing.number next = sealing.number entry + 1 →
      sealing.previous next = some (sealing.mark entry)) : sealing.Chained before start entries := by
  induction entries generalizing before start with
  | nil => trivial
  | cons head rest ih =>
    rw [List.pairwise_cons] at ascending
    have long : ((head :: rest).length : Int) = rest.length + 1 := by simp
    rw [long] at complete
    -- the numbers are complete, so the least one is the first
    have numbered : sealing.number head = start := by
      have low := ((complete (sealing.number head)).mp ⟨head, List.mem_cons_self, rfl⟩).1
      obtain ⟨entry, member, same⟩ := (complete start).mpr ⟨le_rfl, by omega⟩
      rcases List.mem_cons.mp member with rfl | later
      · exact same
      · have above := ascending.1 entry later
        omega
    refine ⟨numbered, first head List.mem_cons_self numbered, marked head List.mem_cons_self, ?_⟩
    apply ih ascending.2
    · -- the numbers of the rest are complete from the next one on
      intro number
      constructor
      · rintro ⟨entry, member, rfl⟩
        have above := ascending.1 entry member
        have bound := (complete (sealing.number entry)).mp ⟨entry, List.mem_cons_of_mem _ member, rfl⟩
        omega
      · rintro ⟨low, high⟩
        obtain ⟨entry, member, same⟩ := (complete number).mpr ⟨by omega, by omega⟩
        rcases List.mem_cons.mp member with rfl | later
        · omega
        · exact ⟨entry, later, same⟩
    · exact fun entry member => marked entry (List.mem_cons_of_mem _ member)
    · intro entry member same
      exact names head List.mem_cons_self entry (List.mem_cons_of_mem _ member) (by omega)
    · exact fun entry member next nextMember =>
        names entry (List.mem_cons_of_mem _ member) next (List.mem_cons_of_mem _ nextMember)

theorem inOrder_ascending (nodup : (entries.map sealing.number).Nodup) :
    (sealing.inOrder entries).Pairwise fun entry other => sealing.number entry < sealing.number other := by
  have total : Std.Total sealing.InOrder := ⟨fun entry other => le_total (sealing.number entry) (sealing.number other)⟩
  have transitive : IsTrans α sealing.InOrder := ⟨fun _ _ _ start rest => Int.le_trans start rest⟩
  have ordered : (sealing.inOrder entries).Pairwise sealing.InOrder := List.pairwise_insertionSort _ _
  have distinct : (sealing.inOrder entries).Pairwise fun entry other => sealing.number entry ≠ sealing.number other := by
    rw [← List.pairwise_map]
    exact ((List.perm_insertionSort sealing.InOrder entries).map sealing.number).nodup_iff.mpr nodup
  exact ordered.imp₂ (fun _ _ below apart => lt_of_le_of_ne below apart) distinct

/-- An intact log is a chain once it is put in order. -/
theorem Intact.chained (intact : sealing.Intact entries) : sealing.Chained none 1 (sealing.inOrder entries) := by
  apply chained_of_complete (inOrder_ascending intact.nodup)
  · intro number
    simp only [mem_inOrder, length_inOrder, intact.complete]
    constructor <;> rintro ⟨low, high⟩ <;> exact ⟨low, by omega⟩
  · exact fun entry member => intact.sealed entry (mem_inOrder.mp member)
  · exact fun entry member => intact.first entry (mem_inOrder.mp member)
  · exact fun entry member next nextMember =>
      intact.names entry (mem_inOrder.mp member) next (mem_inOrder.mp nextMember)

theorem chained_iff_intact : sealing.Chained none 1 (sealing.inOrder entries) ↔ sealing.Intact entries :=
  ⟨Chained.intact, Intact.chained⟩

/-- A log may be listed in any order. -/
theorem Intact.perm {others : List α} (intact : sealing.Intact entries) (same : entries.Perm others) :
    sealing.Intact others where
  complete number := by simpa [← same.mem_iff, ← same.length_eq] using intact.complete number
  nodup := (same.map sealing.number).nodup_iff.mp intact.nodup
  «sealed» entry member := intact.sealed entry (same.mem_iff.mpr member)
  first entry member := intact.first entry (same.mem_iff.mpr member)
  names entry member next nextMember :=
    intact.names entry (same.mem_iff.mpr member) next (same.mem_iff.mpr nextMember)

/-- A change that keeps numbers, links and marks keeps a log intact exactly when
every changed entry is still sealed. -/
theorem Intact.map_iff (intact : sealing.Intact entries) (change : α → α)
    (number : ∀ entry, sealing.number (change entry) = sealing.number entry)
    (previous : ∀ entry, sealing.previous (change entry) = sealing.previous entry)
    (mark : ∀ entry, sealing.mark (change entry) = sealing.mark entry) :
    sealing.Intact (entries.map change) ↔ ∀ entry ∈ entries, sealing.Sealed (change entry) := by
  constructor
  · intro changed entry member
    exact changed.sealed _ (List.mem_map_of_mem member)
  · intro marked
    constructor
    · simpa [number] using intact.complete
    · simpa [Function.comp_def, number] using intact.nodup
    · simpa using marked
    · simpa [number, previous] using intact.first
    · simpa [number, previous, mark] using intact.names

/-- The entry whose number is the number of entries stands last. -/
theorem Chained.last_of_number (chained : sealing.Chained none 1 (sealing.inOrder entries)) (entry : α)
    (member : entry ∈ entries) (number : sealing.number entry = entries.length) :
    (sealing.inOrder entries).getLast? = some entry := by
  have stands : entry ∈ sealing.inOrder entries := mem_inOrder.mpr member
  have nodup := chained.nodup
  rcases List.eq_nil_or_concat' (sealing.inOrder entries) with empty | ⟨rest, top, split⟩
  · rw [empty] at stands
    cases stands
  · have size := congrArg List.length split
    rw [length_inOrder, List.length_append, List.length_singleton] at size
    rw [split] at chained stands nodup ⊢
    have topNumber := ((chained_concat top).mp chained).2.1
    have same : entry = top := by
      apply List.inj_on_of_nodup_map nodup stands (by simp)
      omega
    simp [same]

/-- An entry with the greatest number comes last. -/
theorem inOrder_concat {entry : α} (last : ∀ other ∈ entries, sealing.number other < sealing.number entry) :
    sealing.inOrder (entries ++ [entry]) = sealing.inOrder entries ++ [entry] := by
  have inserted : ∀ (other : α) (ordered : List α), sealing.number other < sealing.number entry →
      (ordered ++ [entry]).orderedInsert sealing.InOrder other =
        ordered.orderedInsert sealing.InOrder other ++ [entry] := by
    intro other ordered below
    induction ordered with
    | nil =>
      have stands : sealing.InOrder other entry := Int.le_of_lt below
      simp [stands]
    | cons head rest ih =>
      by_cases stands : sealing.InOrder other head
      · simp [stands]
      · simp [stands, ih]
  induction entries with
  | nil => rfl
  | cons head rest ih =>
    have rest := ih fun other member => last other (List.mem_cons_of_mem _ member)
    simp only [inOrder, List.cons_append, List.insertionSort_cons] at rest ⊢
    rw [rest, inserted head _ (last head List.mem_cons_self)]

namespace Intact

variable {others : List α}

theorem eq_of_number (intact : sealing.Intact entries) {entry other : α} (member : entry ∈ entries)
    (otherMember : other ∈ entries) (same : sealing.number entry = sealing.number other) : entry = other :=
  List.inj_on_of_nodup_map intact.nodup member otherMember same

/-- The chain commits to its history: two intact logs of one length that agree
on their last seal agree on the material of every number. -/
theorem agree (faithful : sealing.Faithful) (intact : sealing.Intact entries) (other : sealing.Intact others)
    (long : entries.length = others.length)
    (last : ∀ entry ∈ entries, ∀ twin ∈ others, sealing.number entry = entries.length →
      sealing.number twin = entries.length → sealing.mark entry = sealing.mark twin) :
    ∀ entry ∈ entries, ∀ twin ∈ others, sealing.number entry = sealing.number twin →
      sealing.material entry = sealing.material twin := by
  -- downwards from the last number: equal marks give equal material, which names the mark before
  have marks : ∀ distance : Nat, ∀ entry ∈ entries, ∀ twin ∈ others,
      sealing.number entry = entries.length - distance → sealing.number twin = entries.length - distance →
        sealing.mark entry = sealing.mark twin := by
    intro distance
    induction distance with
    | zero =>
      intro entry member twin twinMember numbered twinNumbered
      apply last entry member twin twinMember <;> omega
    | succ distance ih =>
      intro entry member twin twinMember numbered twinNumbered
      have low := ((intact.complete _).mp ⟨entry, member, rfl⟩).1
      obtain ⟨next, nextMember, nextNumber⟩ :=
        (intact.complete (sealing.number entry + 1)).mpr ⟨by omega, by omega⟩
      obtain ⟨after, afterMember, afterNumber⟩ :=
        (other.complete (sealing.number twin + 1)).mpr ⟨by omega, by omega⟩
      have marks := ih next nextMember after afterMember (by omega) (by omega)
      have material : sealing.material next = sealing.material after := by
        apply faithful
        rw [intact.sealed next nextMember, other.sealed after afterMember, marks]
      have links := sealing.linked _ _ material
      rw [intact.names entry member next nextMember nextNumber,
        other.names twin twinMember after afterMember afterNumber] at links
      exact Option.some.inj links
  intro entry member twin twinMember same
  have bound := (intact.complete _).mp ⟨entry, member, rfl⟩
  apply faithful
  rw [intact.sealed entry member, other.sealed twin twinMember]
  apply marks (entries.length - sealing.number entry).toNat entry member twin twinMember <;> omega

end Intact

end Sealing

end ControlTower.Foundation
