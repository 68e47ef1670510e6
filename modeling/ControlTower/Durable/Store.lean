import Mathlib.Data.String.Basic
import ControlTower.Durable.Schemas

/-! The durable store. `persist` writes every record as one row under its kind
and identifier; `load` reads the rows of each kind in the order of their
identifiers and validates them under the model of the kind. -/

set_option autoImplicit false

namespace ControlTower.Durable

open Foundation

/-- An entry of the audit log. Entries are made by their model and never changed. -/
structure AuditEvent where
  id : String
  eventType : String
  actor : String
  entityId : String
  details : List (String × Document)
  createdAt : Nat
  deriving DecidableEq

namespace AuditEvent

def document (event : AuditEvent) : Document :=
  .object [("id", .text event.id), ("event_type", .text event.eventType), ("actor", .text event.actor),
    ("entity_id", .text event.entityId), ("details", .object event.details), ("created_at", .instant event.createdAt)]

/-- An entry from the fields that its model has accepted. -/
def ofDocument : Document → Option AuditEvent
  | .object [(_, .text id), (_, .text eventType), (_, .text actor), (_, .text entityId), (_, .object details),
      (_, .instant createdAt)] => some { id, eventType, actor, entityId, details, createdAt }
  | _ => none

end AuditEvent

/-- The collections in memory. A record is what its attributes hold, valid or not. -/
structure DurableStore where
  maps : EntityType → Table String Document
  auditEvents : List AuditEvent

/-- The table `kv_store`: payloads by kind and identifier. -/
abbrev KvStore := Table (String × String) Document

variable (dialect : Dialect)

/-- The rows of `_write_map`. -/
def writeMap (kind : EntityType) (values : Table String Document) : List ((String × String) × Document) :=
  values.rows.map fun row => ((kind.value, row.1), row.2.reread dialect.isoText)

/-- The rows of `_write_list` for the audit log. -/
def writeList (values : List AuditEvent) : List ((String × String) × Document) :=
  values.map fun event => (("audit_event", event.id), event.document.reread dialect.isoText)

def DurableStore.writes (store : DurableStore) : List ((String × String) × Document) :=
  (EntityType.all.flatMap fun kind => writeMap dialect kind (store.maps kind)) ++ writeList dialect store.auditEvents

/-- `persist`. A second row under one key violates the primary key; the
transaction is then rolled back and the error raised. -/
def persist (store : DurableStore) : Option KvStore :=
  if distinct : ((store.writes dialect).map Prod.fst).Nodup then some ⟨store.writes dialect, distinct⟩ else none

/-- The rows of one kind. -/
def KvStore.select (rows : KvStore) (entityType : String) : Table String Document where
  rows := (rows.rows.filter fun row => row.1.1 = entityType).map fun row => (row.1.2, row.2)
  distinct := by
    have kept : ((rows.rows.filter fun row => row.1.1 = entityType).map Prod.fst).Nodup :=
      rows.distinct.sublist (List.filter_sublist.map _)
    rw [List.map_map]
    have named : (rows.rows.filter fun row => row.1.1 = entityType).map (Prod.fst ∘ fun row => (row.1.2, row.2)) =
        ((rows.rows.filter fun row => row.1.1 = entityType).map Prod.fst).map Prod.snd := by
      rw [List.map_map]
      rfl
    rw [named]
    apply kept.map_on
    intro first memberFirst second memberSecond same
    obtain ⟨row, inside, rfl⟩ := List.mem_map.mp memberFirst
    obtain ⟨other, within, rfl⟩ := List.mem_map.mp memberSecond
    have kinds := (List.mem_filter.mp inside).2
    have others := (List.mem_filter.mp within).2
    simp only [decide_eq_true_eq] at kinds others
    exact Prod.ext (kinds.trans others.symm) same

/-- `_load_entities`. -/
def loadEntities (rows : KvStore) (entityType : String) (model : Shape) : Option (Table String Document) :=
  (rows.select entityType).byKey.readAll (model.read dialect)

/-- The audit log from its rows. -/
def loadAuditEvents (rows : KvStore) : Option (List AuditEvent) := do
  let entities ← loadEntities dialect rows "audit_event" auditEvent
  entities.values.mapM AuditEvent.ofDocument

/-- `load`. One record that does not validate makes it fail. -/
def load (rows : KvStore) : Option DurableStore := do
  let auditEvents ← loadAuditEvents dialect rows
  if EntityType.all.all fun kind => (loadEntities dialect rows kind.value kind.model).isSome then
    some {
      maps := fun kind => (loadEntities dialect rows kind.value kind.model).getD .empty
      auditEvents }
  else none

/-- Equality of stores: the same records under the same identifiers and the same audit log. -/
structure DurableStore.Same (first second : DurableStore) : Prop where
  maps : ∀ kind id, (first.maps kind).get? id = (second.maps kind).get? id
  auditEvents : first.auditEvents = second.auditEvents

/-- `load` after `persist` succeeds and yields the persisted state. -/
def RoundTrips (store : DurableStore) : Prop :=
  ∃ rows loaded, persist dialect store = some rows ∧ load dialect rows = some loaded ∧ loaded.Same store

/-- Every record meets its model. -/
def DurableStore.Valid (store : DurableStore) : Prop :=
  ∀ kind id record, (store.maps kind).get? id = some record → kind.model.Conforms record

/-- The audit log stands in the order of its identifiers, and its untyped details hold no point in time. -/
structure InOrder (events : List AuditEvent) : Prop where
  ascending : (events.map (·.id)).Pairwise (· < ·)
  timeless : ∀ event ∈ events, Document.holdsInstantFields event.details = false

structure DurableStore.Restorable (store : DurableStore) : Prop where
  valid : store.Valid
  inOrder : InOrder store.auditEvents

section Rows

variable {dialect : Dialect} {store : DurableStore} {rows : KvStore}

theorem persist_rows (persisted : persist dialect store = some rows) : rows.rows = store.writes dialect := by
  unfold persist at persisted
  split at persisted
  · cases persisted
    rfl
  · cases persisted

theorem get?_select (rows : KvStore) (entityType id : String) :
    (rows.select entityType).get? id = rows.get? (entityType, id) := by
  apply Option.ext
  intro payload
  rw [Table.get?_eq_some, Table.get?_eq_some]
  simp only [KvStore.select, List.mem_map, List.mem_filter, decide_eq_true_eq, Prod.mk.injEq, Prod.exists]
  constructor
  · rintro ⟨kind, other, value, ⟨member, rfl⟩, rfl, rfl⟩
    exact member
  · intro member
    exact ⟨entityType, id, payload, ⟨member, rfl⟩, rfl, rfl⟩

/-- The row of a record. -/
theorem persisted_get? (persisted : persist dialect store = some rows) (kind : EntityType) (id : String) :
    rows.get? (kind.value, id) = ((store.maps kind).get? id).map (Document.reread dialect.isoText) := by
  apply Option.ext
  intro payload
  rw [Table.get?_eq_some, persist_rows persisted, DurableStore.writes, List.mem_append, List.mem_flatMap,
    Option.map_eq_some_iff]
  simp only [writeMap, writeList, List.mem_map, Prod.mk.injEq, Prod.exists, Table.get?_eq_some]
  constructor
  · rintro (⟨other, -, key, record, member, ⟨same, rfl⟩, rfl⟩ | ⟨event, -, ⟨same, -⟩, -⟩)
    · cases EntityType.value_injective same
      exact ⟨record, member, rfl⟩
    · exact absurd same.symm (EntityType.value_ne_audit kind)
  · rintro ⟨record, member, rfl⟩
    exact .inl ⟨kind, EntityType.mem_all kind, id, record, member, ⟨rfl, rfl⟩, rfl⟩

theorem loadEntities_get? (persisted : persist dialect store = some rows) {kind : EntityType}
    {made : Table String Document} (loaded : loadEntities dialect rows kind.value kind.model = some made) (id : String) :
    made.get? id = ((store.maps kind).get? id).bind fun record =>
      kind.model.read dialect (record.reread dialect.isoText) := by
  rw [Table.readAll_get? loaded, Table.get?_byKey, get?_select, persisted_get? persisted]
  cases (store.maps kind).get? id <;> rfl

/-- The audit rows stand in the order of the log. -/
theorem select_audit (persisted : persist dialect store = some rows) :
    (rows.select "audit_event").rows =
      store.auditEvents.map fun event => (event.id, event.document.reread dialect.isoText) := by
  have others : (EntityType.all.flatMap fun kind => writeMap dialect kind (store.maps kind)).filter
      (fun row => row.1.1 = "audit_event") = [] := by
    rw [List.filter_eq_nil_iff]
    intro row member
    obtain ⟨kind, -, inside⟩ := List.mem_flatMap.mp member
    obtain ⟨record, -, rfl⟩ := List.mem_map.mp inside
    simpa using EntityType.value_ne_audit kind
  have own : (writeList dialect store.auditEvents).filter (fun row => row.1.1 = "audit_event") =
      writeList dialect store.auditEvents := by
    rw [List.filter_eq_self]
    intro row member
    obtain ⟨event, -, rfl⟩ := List.mem_map.mp member
    simp
  simp only [KvStore.select, persist_rows persisted, DurableStore.writes, List.filter_append, others, own,
    List.nil_append]
  rw [writeList, List.map_map]
  rfl

/-- An entry of the audit log as it comes back. -/
def AuditEvent.restarted (isoText : Nat → String) (event : AuditEvent) : AuditEvent :=
  { event with details := Document.rereadFields isoText event.details }

theorem restarted_eq (isoText : Nat → String) (event : AuditEvent) :
    event.restarted isoText = event ↔ Document.holdsInstantFields event.details = false := by
  rw [← Document.rereadFields_eq isoText]
  constructor
  · intro same
    exact congrArg AuditEvent.details same
  · intro same
    rw [AuditEvent.restarted, same]

theorem read_auditEvent (event : AuditEvent) :
    auditEvent.read dialect (event.document.reread dialect.isoText) =
      some (event.restarted dialect.isoText).document := by
  simp [auditEvent, AuditEvent.document, AuditEvent.restarted, Document.reread, Document.rereadFields, Shape.read,
    Shape.readFields, Shape.string, Shape.readText, List.lookup_cons, dialect.momentOf_isoText]

theorem ofDocument_document (event : AuditEvent) : AuditEvent.ofDocument event.document = some event := rfl

/-- The order in which the audit log comes back. -/
def byId (events : List AuditEvent) : List AuditEvent := events.insertionSort fun event other => event.id ≤ other.id

theorem byId_of_ascending {events : List AuditEvent} (ascending : (events.map (·.id)).Pairwise (· < ·)) :
    byId events = events := by
  apply List.Pairwise.insertionSort_eq
  exact (List.pairwise_map.mp ascending).imp le_of_lt

theorem byId_ids (events : List AuditEvent) : ((byId events).map (·.id)).Pairwise (· ≤ ·) :=
  List.pairwise_map.mpr (List.pairwise_insertionSort _ events)

/-- Loading the audit log never fails; the entries come back in the order of their identifiers. -/
theorem loadAuditEvents_eq (persisted : persist dialect store = some rows) :
    loadAuditEvents dialect rows = some ((byId store.auditEvents).map (·.restarted dialect.isoText)) := by
  have sorted : (rows.select "audit_event").byKey.rows =
      (byId store.auditEvents).map fun event => (event.id, event.document.reread dialect.isoText) := by
    show (rows.select "audit_event").rows.insertionSort (fun row other => row.1 ≤ other.1) = _
    rw [select_audit persisted]
    exact (List.map_insertionSort (fun (event other : AuditEvent) => event.id ≤ other.id)
      (fun (row other : String × Document) => row.1 ≤ other.1) _ _ fun _ _ _ _ => Iff.rfl).symm
  have readable : ∃ made, (rows.select "audit_event").byKey.readAll (auditEvent.read dialect) = some made := by
    apply Table.readAll_of_reads
    intro id payload found
    rw [Table.get?_eq_some, sorted] at found
    obtain ⟨event, -, same⟩ := List.mem_map.mp found
    cases same
    exact ⟨_, read_auditEvent event⟩
  obtain ⟨made, loaded⟩ := readable
  have listed : made.rows = (byId store.auditEvents).map fun event =>
      (event.id, (event.restarted dialect.isoText).document) := by
    apply Option.some.inj
    rw [← Table.readAll_some loaded, sorted]
    exact Table.mapM_map_of_eq (fun event => by rw [read_auditEvent, Option.map_some]) _
  have values : made.values.mapM AuditEvent.ofDocument =
      some ((byId store.auditEvents).map (·.restarted dialect.isoText)) := by
    rw [Table.values, listed, List.map_map]
    exact Table.mapM_map_of_eq (fun event => ofDocument_document _) _
  unfold loadAuditEvents loadEntities
  rw [loaded]
  exact values

/-- Only two entries of the audit log can share a key. -/
theorem writes_distinct (ids : (store.auditEvents.map (·.id)).Nodup) :
    ((store.writes dialect).map Prod.fst).Nodup := by
  have keys : ∀ kind, (writeMap dialect kind (store.maps kind)).map Prod.fst =
      (store.maps kind).keys.map fun id => (kind.value, id) := by
    intro kind
    rw [writeMap, Table.keys, List.map_map, List.map_map]
    rfl
  have audit : (writeList dialect store.auditEvents).map Prod.fst =
      (store.auditEvents.map (·.id)).map fun id => ("audit_event", id) := by
    rw [writeList, List.map_map, List.map_map]
    rfl
  -- rows of different kinds differ in the kind, rows of one kind in the identifier
  have paired : ∀ name : String, Function.Injective fun id : String => (name, id) := by
    intro name first second same
    exact congrArg Prod.snd same
  rw [DurableStore.writes, List.map_append, List.map_flatMap, List.nodup_append]
  refine ⟨?_, ?_, ?_⟩
  · rw [List.nodup_flatMap]
    constructor
    · intro kind _
      rw [keys]
      exact (store.maps kind).distinct.map (paired kind.value)
    · have kinds : EntityType.all.Nodup := by decide
      apply kinds.imp
      intro kind other away key member inside
      simp only [keys, List.mem_map] at member inside
      obtain ⟨_, -, rfl⟩ := member
      obtain ⟨_, -, same⟩ := inside
      exact away (EntityType.value_injective (congrArg Prod.fst same)).symm
  · rw [audit]
    exact ids.map (paired "audit_event")
  · rintro key member _ inside rfl
    obtain ⟨kind, -, member⟩ := List.mem_flatMap.mp member
    rw [keys, List.mem_map] at member
    rw [audit, List.mem_map] at inside
    obtain ⟨_, -, rfl⟩ := member
    obtain ⟨_, -, same⟩ := inside
    exact EntityType.value_ne_audit kind (congrArg Prod.fst same).symm

theorem persist_distinct (persisted : persist dialect store = some rows) : (store.auditEvents.map (·.id)).Nodup := by
  have distinct := (rows.select "audit_event").distinct
  rw [select_audit persisted, List.map_map] at distinct
  exact distinct

/-- A record comes back as it was exactly when it meets its model. -/
theorem record_survives (kind : EntityType) (record : Document) :
    kind.model.read dialect (record.reread dialect.isoText) = some record ↔ kind.model.Conforms record :=
  Shape.read_reread_iff dialect kind.model (EntityType.model_distinctNames kind) record

theorem load_some {loaded : DurableStore} (restored : load dialect rows = some loaded) :
    loadAuditEvents dialect rows = some loaded.auditEvents ∧
      ∀ kind, loadEntities dialect rows kind.value kind.model = some (loaded.maps kind) := by
  unfold load at restored
  obtain ⟨auditEvents, audited, restored⟩ := Option.bind_eq_some_iff.mp restored
  split at restored
  · next all =>
    cases restored
    refine ⟨audited, fun kind => ?_⟩
    have present := List.all_eq_true.mp all kind (EntityType.mem_all kind)
    obtain ⟨made, loaded⟩ := Option.isSome_iff_exists.mp present
    simp [loaded]
  · cases restored

theorem load_of_loads {auditEvents : List AuditEvent} {maps : EntityType → Table String Document}
    (audited : loadAuditEvents dialect rows = some auditEvents)
    (loads : ∀ kind, loadEntities dialect rows kind.value kind.model = some (maps kind)) :
    load dialect rows = some ⟨maps, auditEvents⟩ := by
  simp [load, audited, loads]

theorem InOrder.of_restored {events : List AuditEvent} (distinct : (events.map (·.id)).Nodup)
    (same : (byId events).map (·.restarted dialect.isoText) = events) : InOrder events := by
  have ids : (byId events).map (·.id) = events.map (·.id) := by
    have both := congrArg (List.map (·.id)) same
    rw [List.map_map] at both
    exact both
  have ascending : (events.map (·.id)).Pairwise (· < ·) := by
    have sorted := byId_ids events
    rw [ids] at sorted
    exact (sorted.and distinct).imp fun pair => lt_of_le_of_ne pair.1 pair.2
  rw [byId_of_ascending ascending] at same
  refine ⟨ascending, fun event member => ?_⟩
  have fixed : ∀ event ∈ events, event.restarted dialect.isoText = event := by
    have kept : events.map (·.restarted dialect.isoText) = events.map id := by rw [same, List.map_id]
    exact List.map_inj_left.mp kept
  exact (restarted_eq dialect.isoText event).mp (fixed event member)

theorem InOrder.restored {events : List AuditEvent} (inOrder : InOrder events) :
    (byId events).map (·.restarted dialect.isoText) = events := by
  rw [byId_of_ascending inOrder.ascending]
  conv_rhs => rw [← List.map_id events]
  exact List.map_inj_left.mpr fun event member => (restarted_eq dialect.isoText event).mpr (inOrder.timeless event member)

/-- The state comes back exactly when every record meets its model and the audit log is in order. -/
theorem roundTrips_iff : RoundTrips dialect store ↔ store.Restorable := by
  constructor
  · rintro ⟨rows, loaded, persisted, restored, same⟩
    obtain ⟨audited, loads⟩ := load_some restored
    constructor
    · intro kind id record found
      have read := loadEntities_get? persisted (loads kind) id
      rw [same.maps, found, Option.bind_some] at read
      exact (record_survives kind record).mp read.symm
    · apply InOrder.of_restored (persist_distinct persisted)
      rw [loadAuditEvents_eq persisted] at audited
      rw [Option.some.inj audited, same.auditEvents]
  · intro restorable
    have ids : (store.auditEvents.map (·.id)).Nodup := restorable.inOrder.ascending.imp ne_of_lt
    have persisted : persist dialect store = some ⟨store.writes dialect, writes_distinct ids⟩ :=
      dif_pos (writes_distinct ids)
    have loads : ∀ kind : EntityType, ∃ made,
        -- a valid record is read back from what was written of it
        loadEntities dialect ⟨store.writes dialect, writes_distinct ids⟩ kind.value kind.model = some made := by
      intro kind
      apply Table.readAll_of_reads
      intro id payload found
      rw [Table.get?_byKey, get?_select, persisted_get? persisted, Option.map_eq_some_iff] at found
      obtain ⟨record, stored, rfl⟩ := found
      exact ⟨record, (record_survives kind record).mpr (restorable.valid kind id record stored)⟩
    choose maps loads using loads
    refine ⟨_, ⟨maps, _⟩, persisted, load_of_loads (loadAuditEvents_eq persisted) loads, ?_, restorable.inOrder.restored⟩
    intro kind id
    rw [loadEntities_get? persisted (loads kind) id]
    cases found : (store.maps kind).get? id with
    | none => rfl
    | some record => exact (record_survives kind record).mpr (restorable.valid kind id record found)

end Rows

end ControlTower.Durable
