import ControlTower.Durable.Connectors

/-! Which runs keep a store that survives `persist` and `load`: those in which
an update sends no null for an attribute that needs a value, other routes store
valid records, and the audit log grows in the order of its identifiers. -/

set_option autoImplicit false

namespace ControlTower.Durable

open Foundation
open Foundation.Procedure

section Attributes

variable {schema : List (String × Shape)} {fields : List (String × Document)} {name : String} {shape : Shape}
  {value : Document}

theorem lookup_conforms (conform : Shape.FieldsConform schema fields) (declared : schema.lookup name = some shape) :
    ∃ value, fields.lookup name = some value ∧ shape.Conforms value := by
  induction schema generalizing fields with
  | nil => cases declared
  | cons entry rest ih =>
    obtain ⟨other, first⟩ := entry
    cases fields with
    | nil => simp [Shape.FieldsConform] at conform
    | cons field fields =>
      obtain ⟨label, value⟩ := field
      simp only [Shape.FieldsConform] at conform
      obtain ⟨rfl, here, conform⟩ := conform
      rw [List.lookup_cons] at declared ⊢
      split at declared
      · cases declared
        exact ⟨value, rfl, here⟩
      · exact ih conform declared

/-- A value that fits an attribute keeps the record valid. -/
theorem assign_fields_conform (distinct : (schema.map Prod.fst).Nodup) (conform : Shape.FieldsConform schema fields)
    (declared : schema.lookup name = some shape) (fits : shape.Conforms value) :
    Shape.FieldsConform schema (fields.map fun field => if field.1 = name then (name, value) else field) := by
  induction schema generalizing fields with
  | nil => cases declared
  | cons entry rest ih =>
    obtain ⟨other, first⟩ := entry
    cases fields with
    | nil => simp [Shape.FieldsConform] at conform
    | cons field fields =>
      obtain ⟨label, held⟩ := field
      simp only [Shape.FieldsConform] at conform
      obtain ⟨rfl, here, conform⟩ := conform
      rw [List.map_cons, List.nodup_cons] at distinct
      by_cases same : other = name
      · subst same
        rw [List.lookup_cons_self] at declared
        cases declared
        -- names are distinct, so the other fields stay
        have untouched : (fields.map fun field => if field.1 = other then (other, value) else field) = fields.map id := by
          apply List.map_inj_left.mpr
          intro field member
          rw [if_neg]
          · rfl
          · rintro rfl
            apply distinct.1
            rw [← Shape.fieldsConform_names conform]
            exact List.mem_map_of_mem member
        rw [List.map_cons, if_pos rfl, untouched, List.map_id]
        exact ⟨rfl, fits, conform⟩
      · rw [List.lookup_cons, beq_eq_false_iff_ne.mpr (Ne.symm same)] at declared
        rw [List.map_cons, if_neg same]
        exact ⟨rfl, here, ih distinct.2 conform declared⟩

end Attributes

section Connectors

/-- The declared fields of a connector. -/
def connectorFields : List (String × Shape) :=
  match agentConnector with
  | .record fields => fields
  | _ => []

theorem agentConnector_eq : agentConnector = .record connectorFields := rfl

theorem connectorFields_distinct : (connectorFields.map Prod.fst).Nodup := by decide

variable {connector value : Document} {name : String} {shape : Shape}

theorem assign_conforms (conforms : agentConnector.Conforms connector)
    (declared : connectorFields.lookup name = some shape) (fits : shape.Conforms value) :
    agentConnector.Conforms (assign name value connector) := by
  rw [agentConnector_eq, Shape.Conforms] at conforms ⊢
  obtain ⟨fields, rfl, conform⟩ := conforms
  exact ⟨_, rfl, assign_fields_conform connectorFields_distinct conform declared fits⟩

theorem getAttribute_conforms (conforms : agentConnector.Conforms connector)
    (declared : connectorFields.lookup name = some shape) : shape.Conforms (getAttribute connector name) := by
  rw [agentConnector_eq, Shape.Conforms] at conforms
  obtain ⟨fields, rfl, conform⟩ := conforms
  obtain ⟨value, found, fits⟩ := lookup_conforms conform declared
  simpa [getAttribute, Document.field, found] using fits

theorem enabledStatus_conforms (enabled : Bool) : (Shape.choice connectorStatuses).Conforms (enabledStatus enabled) := by
  cases enabled <;> simp [Shape.choice, Shape.Conforms, enabledStatus, connectorStatuses]

theorem enabledHealth_conforms (enabled : Bool) :
    (Shape.choice connectorHealthStatuses).Conforms (enabledHealth enabled) := by
  cases enabled <;> simp [Shape.choice, Shape.Conforms, enabledHealth, connectorHealthStatuses]

theorem holdsInstantFields_append (first second : List (String × Document)) :
    Document.holdsInstantFields (first ++ second) =
      (Document.holdsInstantFields first || Document.holdsInstantFields second) := by
  induction first with
  | nil => simp [Document.holdsInstantFields]
  | cons field rest ih => simp [Document.holdsInstantFields, ih, Bool.or_assoc]

theorem replace_timeless {fields : List (String × Document)} (timeless : Document.holdsInstantFields fields = false)
    (fits : value.holdsInstant = false) :
    Document.holdsInstantFields (fields.map fun field => if field.1 = name then (name, value) else field) = false := by
  induction fields with
  | nil => rfl
  | cons field rest ih =>
    obtain ⟨other, held⟩ := field
    simp only [Document.holdsInstantFields, Bool.or_eq_false_iff] at timeless
    rw [List.map_cons]
    split
    · simp [Document.holdsInstantFields, fits, ih timeless.2]
    · simp [Document.holdsInstantFields, timeless.1, ih timeless.2]

theorem mergeFields_timeless {first second : List (String × Document)}
    (timeless : Document.holdsInstantFields first = false) (also : Document.holdsInstantFields second = false) :
    Document.holdsInstantFields (mergeFields first second) = false := by
  induction second generalizing first with
  | nil => exact timeless
  | cons field rest ih =>
    obtain ⟨name, value⟩ := field
    simp only [Document.holdsInstantFields, Bool.or_eq_false_iff] at also
    rw [mergeFields]
    split
    · exact ih (replace_timeless timeless also.1) also.2
    · apply ih _ also.2
      simp [holdsInstantFields_append, timeless, Document.holdsInstantFields, also.1]

theorem fieldsOf_timeless (timeless : value.holdsInstant = false) : Document.holdsInstantFields (fieldsOf value) = false := by
  cases value with
  | object fields => exact timeless
  | _ => rfl

/-- A field of an update that leaves a connector valid. -/
def Fits (field : String × Document) : Prop :=
  field.1 = "enabled" ∨ (field.1 = "config" ∧ field.2.holdsInstant = false) ∨
    ∃ shape, connectorFields.lookup field.1 = some shape ∧ shape.Conforms field.2

theorem updateField_conforms (conforms : agentConnector.Conforms connector) {field : String × Document} (fits : Fits field) :
    agentConnector.Conforms (updateField connector field) := by
  unfold updateField
  by_cases enabled : field.1 = "enabled"
  · rw [if_pos enabled]
    apply assign_conforms _ rfl (enabledHealth_conforms _)
    exact assign_conforms conforms rfl (enabledStatus_conforms _)
  · rw [if_neg enabled]
    by_cases config : field.1 = "config"
    · rw [if_pos config]
      have declared : connectorFields.lookup "config" = some .mapping := rfl
      have sentConfig : field.2.holdsInstant = false := by
        rcases fits with off | ⟨-, timeless⟩ | ⟨shape, known, whole⟩
        · exact absurd off enabled
        · exact timeless
        · rw [config, declared] at known
          cases known
          exact whole.2
      have held : (getAttribute connector "config").holdsInstant = false := (getAttribute_conforms conforms declared).2
      apply assign_conforms conforms declared
      rw [Shape.Conforms]
      exact ⟨⟨_, rfl⟩, mergeFields_timeless (fieldsOf_timeless held) (fieldsOf_timeless sentConfig)⟩
    · rw [if_neg config]
      split
      · obtain ⟨shape, declared, whole⟩ := (fits.resolve_left enabled).resolve_left fun same => config same.1
        exact assign_conforms conforms declared whole
      · exact conforms

theorem holdsInstant_ofTexts (words : List String) : (Document.ofTexts words).holdsInstant = false := by
  rw [Document.ofTexts, Document.holdsInstant]
  induction words with
  | nil => rfl
  | cons word rest ih => simp [Document.holdsInstantItems, Document.holdsInstant, ih]

/-- The shapes of the attributes that the audit log copies. -/
def copied : Shape → Bool
  | .text _ _ | .texts _ | .integer _ _ => true
  | _ => false

theorem copied_timeless (plain : copied shape = true) (conforms : shape.Conforms value) : value.holdsInstant = false := by
  cases shape with
  | text absent check =>
    obtain ⟨words, rfl, -⟩ := conforms
    rfl
  | texts check =>
    obtain ⟨words, rfl, -⟩ := conforms
    exact holdsInstant_ofTexts words
  | integer least most =>
    obtain ⟨number, rfl, -⟩ := conforms
    rfl
  | _ => cases plain

theorem attribute_timeless (conforms : agentConnector.Conforms connector)
    (plain : (connectorFields.lookup name).any copied = true) : (getAttribute connector name).holdsInstant = false := by
  cases declared : connectorFields.lookup name with
  | none => simp [declared] at plain
  | some shape =>
    rw [declared, Option.any_some] at plain
    exact copied_timeless plain (getAttribute_conforms conforms declared)

theorem connectorDetails_timeless (conforms : agentConnector.Conforms connector) :
    Document.holdsInstantFields (connectorDetails connector) = false := by
  have each : ∀ names : List String, (∀ name ∈ names, (connectorFields.lookup name).any copied = true) →
      Document.holdsInstantFields (names.map fun name => (name, getAttribute connector name)) = false := by
    intro names plain
    induction names with
    | nil => rfl
    | cons name rest ih =>
      rw [List.forall_mem_cons] at plain
      simp [Document.holdsInstantFields, attribute_timeless conforms plain.1, ih plain.2]
  rw [connectorDetails, holdsInstantFields_append, each _ (by decide)]
  rfl

theorem oneOf_conforms {values : List String} (value : OneOf values) : (Shape.choice values).Conforms (ofOneOf value) :=
  ⟨value.val, rfl, by simp [value.property]⟩

theorem actions_conforms (actions : List (OneOf agentActions)) :
    (Shape.choices agentActions).Conforms (ofActions actions) := by
  refine ⟨actions.map (·.val), rfl, if_pos ?_⟩
  rw [List.all_eq_true]
  intro action member
  obtain ⟨given, -, rfl⟩ := List.mem_map.mp member
  simpa using given.property

theorem optionalString_conforms (value : Option String) : optionalString.Conforms (.ofText value) := by
  cases value with
  | none => exact .inl rfl
  | some words => exact .inr ⟨by simp [Document.ofText], words, rfl, rfl⟩

theorem newConnector_conforms (id : String) (payload : ConnectorCreate) (user : AuthUser) (createdAt updatedAt : Instant) :
    agentConnector.Conforms (newConnector id payload user createdAt updatedAt) := by
  refine ⟨_, rfl, rfl, ⟨id, rfl, rfl⟩, rfl, ⟨payload.name, rfl, rfl⟩, rfl, oneOf_conforms _, rfl, oneOf_conforms _, rfl,
    optionalString_conforms _, rfl, optionalString_conforms _, rfl, oneOf_conforms _, rfl, enabledStatus_conforms _, rfl,
    enabledHealth_conforms _, rfl, ⟨_, rfl, rfl⟩, rfl, ⟨_, rfl, rfl⟩, rfl, actions_conforms _, rfl, ⟨_, rfl, rfl⟩, rfl,
    .inl rfl, rfl, .inl rfl, rfl, .inl rfl, rfl, ⟨0, rfl, rfl⟩, rfl, .inl rfl, rfl, optionalString_conforms (some user.id),
    rfl, ⟨⟨_, rfl⟩, payload.config.property⟩, rfl, ⟨createdAt, rfl⟩, rfl, ⟨updatedAt, rfl⟩, trivial⟩

/-- No attribute that needs a value is sent as null. -/
structure ConnectorUpdate.NullFree (update : ConnectorUpdate) : Prop where
  name : update.name ≠ some none
  connectorType : update.connectorType ≠ some none
  providerLabel : update.providerLabel ≠ some none
  authType : update.authType ≠ some none
  allowedProjectIds : update.allowedProjectIds ≠ some none
  allowedRepositories : update.allowedRepositories ≠ some none
  allowedActions : update.allowedActions ≠ some none
  rateLimitPerMinute : update.rateLimitPerMinute ≠ some none

theorem sent_fits {α : Type} {document : α → Document} {value : Option (Option α)}
    (null : value = some none → Fits (name, .null)) (given : ∀ content, value = some (some content) → Fits (name, document content)) :
    ∀ field ∈ sent name document value, Fits field := by
  intro field member
  rcases value with _ | _ | content
  · cases member
  · rw [List.mem_singleton.mp member]
    exact null rfl
  · rw [List.mem_singleton.mp member]
    exact given content rfl

theorem declared_fits (declared : connectorFields.lookup name = some shape) (conforms : shape.Conforms value) :
    Fits (name, value) := .inr (.inr ⟨shape, declared, conforms⟩)

theorem ConnectorUpdate.NullFree.fits {update : ConnectorUpdate} (free : update.NullFree) :
    ∀ field ∈ update.dump, Fits field := by
  have text : ∀ words : String, Shape.string.Conforms (.text words) := fun words => ⟨words, rfl, rfl⟩
  have texts : ∀ words : List String, Shape.strings.Conforms (.ofTexts words) := fun words => ⟨words, rfl, rfl⟩
  have count : ∀ count : Nat, Shape.int.Conforms (ofCount count) := fun count => ⟨count, rfl, rfl⟩
  have url : ∀ value : Option String, ∀ name, connectorFields.lookup name = some optionalString →
      Fits (name, .ofText value) := fun value name declared => declared_fits declared (optionalString_conforms value)
  intro field member
  simp only [ConnectorUpdate.dump, List.mem_append] at member
  rcases member with ((((((((((member | member) | member) | member) | member) | member) | member) | member) | member) | member) | member) | member
  · exact sent_fits (fun null => absurd null free.name) (fun words _ => declared_fits rfl (text words)) field member
  · exact sent_fits (fun null => absurd null free.connectorType) (fun kind _ => declared_fits rfl (oneOf_conforms kind)) field member
  · exact sent_fits (fun null => absurd null free.providerLabel) (fun label _ => declared_fits rfl (oneOf_conforms label)) field member
  · exact sent_fits (fun _ => url none _ rfl) (fun words _ => url (some words) _ rfl) field member
  · exact sent_fits (fun _ => url none _ rfl) (fun words _ => url (some words) _ rfl) field member
  · exact sent_fits (fun null => absurd null free.authType) (fun kind _ => declared_fits rfl (oneOf_conforms kind)) field member
  · exact sent_fits (fun null => absurd null free.allowedProjectIds) (fun ids _ => declared_fits rfl (texts ids)) field member
  · exact sent_fits (fun null => absurd null free.allowedRepositories) (fun names _ => declared_fits rfl (texts names))
      field member
  · exact sent_fits (fun null => absurd null free.allowedActions) (fun given _ => declared_fits rfl (actions_conforms given))
      field member
  · exact sent_fits (fun null => absurd null free.rateLimitPerMinute)
      (fun number _ => declared_fits rfl (count number)) field member
  · exact sent_fits (fun _ => .inl rfl) (fun _ _ => .inl rfl) field member
  · exact sent_fits (fun _ => .inr (.inl ⟨rfl, rfl⟩)) (fun json _ => .inr (.inl ⟨rfl, json.property⟩)) field member

theorem update_conforms (conforms : agentConnector.Conforms connector) {fields : List (String × Document)}
    (fit : ∀ field ∈ fields, Fits field) : agentConnector.Conforms (fields.foldl updateField connector) := by
  induction fields generalizing connector with
  | nil => exact conforms
  | cons field rest ih =>
    rw [List.forall_mem_cons] at fit
    exact ih (updateField_conforms conforms fit.1) fit.2

end Connectors

section Steps

variable {runtime : Runtime} {dialect : Dialect} {state : DurableState}

/-- The state in memory survives, and so does what the tables hold. -/
structure DurableState.Lasting (dialect : Dialect) (state : DurableState) : Prop where
  memory : state.memory.Restorable
  disk : ∀ loaded, load dialect state.disk = some loaded → loaded.Restorable

/-- The next entry of the audit log gets an identifier after all others. -/
def NextInOrder (runtime : Runtime) (store : DurableStore) : Prop :=
  ∀ event ∈ store.auditEvents, event.id < nextAuditId runtime store

theorem InOrder.concat {events : List AuditEvent} (inOrder : InOrder events) {event : AuditEvent}
    (later : ∀ earlier ∈ events, earlier.id < event.id) (timeless : Document.holdsInstantFields event.details = false) :
    InOrder (events ++ [event]) := by
  constructor
  · rw [List.map_append, List.pairwise_append]
    refine ⟨inOrder.ascending, List.pairwise_singleton _ _, ?_⟩
    intro id member other single
    obtain ⟨earlier, inside, rfl⟩ := List.mem_map.mp member
    rw [List.map_singleton, List.mem_singleton] at single
    rw [single]
    exact later earlier inside
  · intro other member
    rcases List.mem_append.mp member with old | new
    · exact inOrder.timeless other old
    · rw [List.mem_singleton.mp new]
      exact timeless

theorem DurableState.Lasting.tick (lasting : state.Lasting dialect) : (Clocked.tick state).Lasting dialect :=
  ⟨lasting.memory, lasting.disk⟩

theorem valid_set {store : DurableStore} (valid : store.Valid) {kind : EntityType} {id : String} {record : Document}
    (conforms : kind.model.Conforms record) :
    ({ store with maps := Function.update store.maps kind ((store.maps kind).set id record) } : DurableStore).Valid := by
  intro other key held found
  dsimp only at found
  by_cases same : other = kind
  · subst same
    rw [Function.update_self, Table.get?_set] at found
    split at found
    · cases found
      exact conforms
    · exact valid other key held found
  · rw [Function.update_of_ne same] at found
    exact valid other key held found

theorem setRecord_ends (lasting : state.Lasting dialect) {kind : EntityType} (id : String) {record : Document}
    (conforms : kind.model.Conforms record) :
    (setRecord kind id record).Ends state fun outcome after => outcome = .ok () ∧ after.Lasting dialect ∧
      after.memory.auditEvents = state.memory.auditEvents :=
  ⟨rfl, ⟨⟨valid_set lasting.memory.valid conforms, lasting.memory.inOrder⟩, lasting.disk⟩, rfl⟩

theorem audit_ends (lasting : state.Lasting dialect) (next : NextInOrder runtime state.memory)
    {details : List (String × Document)} (timeless : Document.holdsInstantFields details = false)
    (eventType entityId actor : String) :
    (audit runtime eventType entityId details actor).Ends state fun outcome after => outcome = .ok () ∧
      after.Lasting dialect :=
  ⟨rfl, ⟨lasting.memory.valid, lasting.memory.inOrder.concat next timeless⟩, lasting.disk⟩

/-- What comes back of a restorable store is restorable. -/
theorem loaded_restorable {store loaded : DurableStore} (restorable : store.Restorable) {rows : KvStore}
    (persisted : persist dialect store = some rows) (restored : load dialect rows = some loaded) : loaded.Restorable := by
  obtain ⟨_, _, written, read, same⟩ := roundTrips_iff.mpr restorable
  rw [persisted] at written
  cases written
  rw [restored] at read
  cases read
  constructor
  · intro kind id record found
    rw [same.maps] at found
    exact restorable.valid kind id record found
  · rw [same.auditEvents]
    exact restorable.inOrder

theorem persistStore_ends (lasting : state.Lasting dialect) :
    (persistStore dialect).Ends state fun _ after => after.Lasting dialect := by
  unfold persistStore
  apply ends_read
  cases persisted : persist dialect state.memory with
  | none => exact lasting
  | some rows => exact ⟨lasting.memory, fun loaded restored => loaded_restorable lasting.memory persisted restored⟩

/-- A record is stored, the log is extended, and the store is persisted. -/
theorem record_ends (lasting : state.Lasting dialect) (next : NextInOrder runtime state.memory) {kind : EntityType}
    {record : Document} (conforms : kind.model.Conforms record) {details : List (String × Document)}
    (timeless : Document.holdsInstantFields details = false) (eventType id actor : String) :
    (do
      setRecord kind id record
      audit runtime eventType id details actor
      persistStore dialect).Ends state fun _ after => after.Lasting dialect := by
  refine Ends.bind (setRecord_ends lasting id conforms) ?_ (by simp)
  rintro _ middle ⟨-, kept, same⟩
  have still : NextInOrder runtime middle.memory := by
    unfold NextInOrder nextAuditId
    rw [same]
    exact next
  refine Ends.bind (audit_ends kept still timeless eventType id actor) ?_ (by simp)
  rintro _ after ⟨-, left⟩
  exact persistStore_ends left

theorem createConnector_ends (lasting : state.Lasting dialect) (next : NextInOrder runtime state.memory)
    (payload : ConnectorCreate) (user : AuthUser) :
    (createConnector runtime dialect payload user).Ends state fun _ after => after.Lasting dialect := by
  unfold createConnector validateScopes
  rw [← ends_assoc]
  apply ends_read
  apply ends_guard lasting
  intro _
  simp only [ends_bind, ends_readClock, continue_ok, ends_state]
  have conforms : EntityType.agentConnector.model.Conforms (newConnector
      (runtime.newId "connector" (state.memory.maps .agentConnector).keys) payload user (runtime.clock state.ticks)
      (runtime.clock (state.ticks + 1))) := newConnector_conforms _ payload user _ _
  have recorded := record_ends lasting.tick.tick next conforms (connectorDetails_timeless conforms) "connector.created"
    (runtime.newId "connector" (state.memory.maps .agentConnector).keys) user.email
  rw [ends_bind] at recorded
  exact recorded

/-- A connector in memory, and what comes of a change of it. -/
theorem getConnector_ends (lasting : state.Lasting dialect) (connectorId : String) {next : Document → DurableProcedure Unit}
    (continues : ∀ connector, agentConnector.Conforms connector →
      (next connector).Ends state fun _ after => after.Lasting dialect) :
    (getConnector connectorId >>= next).Ends state fun _ after => after.Lasting dialect := by
  unfold getConnector
  rw [← ends_assoc]
  apply ends_read
  apply ends_lookup lasting
  intro connector stored
  exact continues connector (lasting.memory.valid .agentConnector connectorId connector stored)

theorem updateConnector_ends (lasting : state.Lasting dialect) (next : NextInOrder runtime state.memory)
    {payload : ConnectorUpdate} (free : payload.NullFree) (connectorId : String) (user : AuthUser) :
    (updateConnector runtime dialect connectorId payload user).Ends state fun _ after => after.Lasting dialect := by
  unfold updateConnector validateScopes
  rw [← ends_assoc]
  apply ends_read
  apply ends_guard lasting
  intro _
  apply getConnector_ends lasting
  intro connector held
  rw [ends_bind, ends_readClock, continue_ok]
  have conforms : EntityType.agentConnector.model.Conforms (assign "updated_at" (.instant (runtime.clock state.ticks))
      (payload.dump.foldl updateField connector)) :=
    assign_conforms (update_conforms held free.fits) rfl ⟨_, rfl⟩
  apply record_ends lasting.tick next conforms
  have status : (getAttribute connector "status").holdsInstant = false := attribute_timeless held (by decide)
  simp only [Document.holdsInstantFields, Document.holdsInstant, status, Bool.or_false, Bool.false_or]
  exact connectorDetails_timeless conforms

theorem switchConnector_ends (lasting : state.Lasting dialect) (next : NextInOrder runtime state.memory)
    (enabled : Bool) (connectorId : String) (user : AuthUser) :
    (switchConnector runtime dialect enabled connectorId user).Ends state fun _ after => after.Lasting dialect := by
  unfold switchConnector
  apply getConnector_ends lasting
  intro connector held
  rw [ends_bind, ends_readClock, continue_ok]
  have switched : agentConnector.Conforms
      (assign "health_status" (enabledHealth enabled) (assign "status" (enabledStatus enabled) connector)) :=
    assign_conforms (assign_conforms held rfl (enabledStatus_conforms enabled)) rfl (enabledHealth_conforms enabled)
  have conforms : EntityType.agentConnector.model.Conforms (assign "updated_at" (.instant (runtime.clock state.ticks))
      (assign "health_status" (enabledHealth enabled) (assign "status" (enabledStatus enabled) connector))) :=
    assign_conforms switched rfl ⟨_, rfl⟩
  apply record_ends lasting.tick next conforms
  have status : (getAttribute connector "status").holdsInstant = false := attribute_timeless held (by decide)
  simp [Document.holdsInstantFields, status, enabledStatus, Document.holdsInstant]

/-- The requests that keep the store restorable. -/
def Careful (runtime : Runtime) (state : DurableState) : DurableRequest → Prop
  | .createConnector _ _ | .switchConnector _ _ _ => NextInOrder runtime state.memory
  | .updateConnector _ payload _ => payload.NullFree ∧ NextInOrder runtime state.memory
  | .write kind _ record => kind.model.Conforms record
  | .append event => (∀ earlier ∈ state.memory.auditEvents, earlier.id < event.id) ∧
      Document.holdsInstantFields event.details = false
  | .remove _ _ | .persist | .restart => True

theorem DurableState.Lasting.step (lasting : state.Lasting dialect) (request : DurableRequest)
    (careful : Careful runtime state request) : (durableNext runtime dialect state request).Lasting dialect := by
  cases request with
  | createConnector payload user => exact createConnector_ends lasting careful payload user
  | updateConnector connectorId payload user =>
    exact updateConnector_ends lasting careful.2 careful.1 connectorId user
  | switchConnector enabled connectorId user => exact switchConnector_ends lasting careful enabled connectorId user
  | write kind id record => exact (setRecord_ends lasting id careful).2.1
  | remove kind id =>
    refine ⟨⟨?_, lasting.memory.inOrder⟩, lasting.disk⟩
    intro other key record found
    dsimp only [durableNext] at found
    by_cases same : other = kind
    · subst same
      rw [Function.update_self, Table.get?_keep] at found
      split at found
      · exact lasting.memory.valid other key record found
      · cases found
    · rw [Function.update_of_ne same] at found
      exact lasting.memory.valid other key record found
  | append event => exact ⟨⟨lasting.memory.valid, lasting.memory.inOrder.concat careful.1 careful.2⟩, lasting.disk⟩
  | persist => exact persistStore_ends lasting
  | restart =>
    unfold durableNext
    cases restored : load dialect state.disk with
    | none => exact lasting
    | some loaded => exact ⟨lasting.disk loaded restored, lasting.disk⟩

theorem DurableState.Fresh.lasting (fresh : state.Fresh) : state.Lasting dialect := by
  have empty : (⟨fun _ => .empty, []⟩ : DurableStore).Restorable := by
    constructor
    · intro kind id record found
      cases found
    · exact ⟨List.Pairwise.nil, by simp⟩
  constructor
  · rw [fresh.memory]
    exact empty
  · intro loaded restored
    rw [fresh.disk] at restored
    exact loaded_restorable empty (by rfl) restored

end Steps

/-- The store survives `persist` and `load` exactly when its records meet their
models and the audit log is in order, and that is so in every careful run. -/
theorem durable_roundTrip (runtime : Runtime) (dialect : Dialect) :
    (∀ store, RoundTrips dialect store ↔ store.Restorable) ∧
    ∀ state, (durableMachine runtime dialect).Reachable (Careful runtime) state →
      RoundTrips dialect state.memory ∧ state.memory.Valid := by
  constructor
  · intro store
    exact roundTrips_iff
  · intro state reachable
    have lasting : state.Lasting dialect :=
      reachable.invariant (fun _ fresh => fresh.lasting) fun _ request lasting careful => lasting.step request careful
    exact ⟨roundTrips_iff.mpr lasting.memory, lasting.memory.valid⟩

section Sample

/-- A dialect that writes a point in time as so many strokes. -/
def strokes : Dialect where
  isoText instant := String.ofList (List.replicate instant 'x')
  flagOf _ := none
  integerOf _ := none
  amountOf _ := none
  momentOf
    | .text words => some words.length
    | _ => none
  momentOf_isoText := by simp

def sampleUser : AuthUser := ⟨"owner", "owner@example.com", .owner⟩

def webhook : ConnectorCreate where
  name := "build hook"
  connectorType := ⟨"WEBHOOK", by decide⟩
  providerLabel := ⟨"CUSTOM", by decide⟩
  endpointUrl := none
  callbackUrl := none
  authType := ⟨"BEARER", by decide⟩
  allowedProjectIds := []
  allowedRepositories := []
  allowedActions := []
  rateLimitPerMinute := 60
  enabled := true
  config := ⟨[], rfl⟩

/-- A change of the name alone. -/
def renameTo (name : Option String) : ConnectorUpdate where
  name := some name
  connectorType := none
  providerLabel := none
  endpointUrl := none
  callbackUrl := none
  authType := none
  allowedProjectIds := none
  allowedRepositories := none
  allowedActions := none
  rateLimitPerMinute := none
  enabled := none
  config := none

def emptyState : DurableState := ⟨0, ⟨fun _ => .empty, []⟩, .empty⟩

/-- The identifier of the first connector. -/
def webhookId : String := "connector_"

/-- A connector is created and renamed. -/
def renamedState (name : Option String) : DurableState :=
  (durableMachine (.plain false) strokes).runAll emptyState
    [.createConnector webhook sampleUser, .updateConnector webhookId (renameTo name) sampleUser]

theorem durable_roundTrip_sample : RoundTrips strokes (renamedState (some "release hook")).memory := by
  refine ((durable_roundTrip (.plain false) strokes).2 (renamedState (some "release hook"))
    ⟨emptyState, ⟨rfl, rfl⟩, ?_⟩).1
  apply Machine.follows_runAll
  refine ⟨by simp [Careful, NextInOrder, emptyState], ⟨?_, ?_⟩, trivial⟩
  · constructor <;> simp [renameTo]
  · unfold NextInOrder
    decide +kernel

/-- The requests that go through the connector routes. -/
def OnlyConnectorRoutes (_ : DurableState) : DurableRequest → Prop
  | .createConnector _ _ | .updateConnector _ _ _ | .switchConnector _ _ _ | .persist | .restart => True
  | .write _ _ _ | .remove _ _ | .append _ => False

/-- A connector whose name was set to null does not come back. -/
theorem null_name_breaks_load : ¬ ∀ (runtime : Runtime) (dialect : Dialect) (state : DurableState),
    (durableMachine runtime dialect).Reachable OnlyConnectorRoutes state → RoundTrips dialect state.memory := by
  intro claim
  have survives := claim (.plain false) strokes (renamedState none) ⟨emptyState, ⟨rfl, rfl⟩,
    Machine.follows_runAll _ _ ⟨trivial, trivial, trivial⟩⟩
  have valid := (roundTrips_iff.mp survives).valid
  have stored : ((renamedState none).memory.maps .agentConnector).get? webhookId ≠ none ∧
      ∀ record ∈ ((renamedState none).memory.maps .agentConnector).get? webhookId,
        getAttribute record "name" = .null := by decide +kernel
  cases found : ((renamedState none).memory.maps .agentConnector).get? webhookId with
  | none => exact stored.1 found
  | some record =>
    obtain ⟨words, named, -⟩ := getAttribute_conforms (valid .agentConnector webhookId record found)
      (rfl : connectorFields.lookup "name" = some Shape.string)
    rw [stored.2 record found] at named
    cases named

end Sample

end ControlTower.Durable
