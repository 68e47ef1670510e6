import ControlTower.Foundation.Redaction
import ControlTower.Connector.Model
import ControlTower.Durable.Store

/-! The export of the audit log: the filters, the order and the limit are applied to the
stored events, and what they leave is redacted. -/

set_option autoImplicit false

namespace ControlTower.Audit

open Foundation
open Durable (AuditEvent)
open Connectors (DateTime internalError)

variable (runtime : Runtime)

section Redaction

def redactedDetailValue : String := "[REDACTED]"

def sensitiveDetailKeyMarkers : List String :=
  ["password", "secret", "token", "apikey", "authorization", "credential", "serverkey"]

def normalizeDetailKey (key : String) : String :=
  String.ofList ((runtime.lower (Text.strip key)).toList.filter fun c => c ≠ '_' ∧ c ≠ '-')

def isSensitiveDetailKey (key : String) : Bool :=
  sensitiveDetailKeyMarkers.any (Text.contains (normalizeDetailKey runtime key))

def redactDetails (details : List (String × Document)) : List (String × Document) :=
  Document.redactFields (isSensitiveDetailKey runtime) (.text redactedDetailValue) details

def redactAuditEvent (event : AuditEvent) : AuditEvent := { event with details := redactDetails runtime event.details }

end Redaction

section Filters

structure AuditFilters where
  eventType : Option String
  entityId : Option String
  actor : Option String
  detailKey : Option String
  detailValue : Option String
  createdAfter : Option DateTime
  createdBefore : Option DateTime

/-- `str(details.get(key))`. -/
def detailText (details : List (String × Document)) (key : String) : String :=
  match details.lookup key with
  | none => runtime.render .null
  | some (.text value) => value
  | some value => runtime.render value

/-- Keep the events that pass a test on the value of a filter, if it is given. -/
def keepIf {α : Type} (value : Option α) (test : α → AuditEvent → Bool) (events : List AuditEvent) : List AuditEvent :=
  match value with
  | none => events
  | some value => events.filter (test value)

/-- Keep the events whose time compares with a bound, if it is given. A comparison with a
naive time raises. -/
def keepWithin (bound : Option DateTime) (holds : Int → Int → Bool) (events : List AuditEvent) :
    Except Raised (List AuditEvent) :=
  match bound with
  | none => .ok events
  | some bound =>
      match bound.offset with
      | some offset => .ok (events.filter fun event => holds event.createdAt (bound.wall - offset))
      | none => if events = [] then .ok [] else .error internalError

/-- Latest first; events of one time keep their order. -/
def latestFirst (events : List AuditEvent) : List AuditEvent :=
  events.mergeSort fun event other => decide (other.createdAt ≤ event.createdAt)

def filterAuditEvents (filters : AuditFilters) (log : List AuditEvent) : Except Raised (List AuditEvent) := do
  let events := keepIf filters.eventType (fun value event => event.eventType == value) log
  let events := keepIf filters.entityId (fun value event => event.entityId == value) events
  let events := keepIf filters.actor (fun value event => event.actor == value) events
  let events := keepIf filters.detailKey (fun key event => (event.details.lookup key).isSome) events
  let events := keepIf (filters.detailKey.bind fun key => filters.detailValue.map fun value => (key, value))
    (fun pair event => detailText runtime event.details pair.1 == pair.2) events
  let events ← keepWithin filters.createdAfter (fun created bound => decide (bound ≤ created)) events
  let events ← keepWithin filters.createdBefore (fun created bound => decide (created ≤ bound)) events
  return latestFirst events

/-- The filters that are given, as the response repeats them. -/
def filterSummary (filters : AuditFilters) : List (String × (String ⊕ DateTime)) :=
  let text (name : String) (value : Option String) : List (String × (String ⊕ DateTime)) := (value.map fun value => (name, Sum.inl value)).toList
  let time (name : String) (value : Option DateTime) : List (String × (String ⊕ DateTime)) := (value.map fun value => (name, Sum.inr value)).toList
  text "event_type" filters.eventType ++ text "entity_id" filters.entityId ++ text "actor" filters.actor ++
    text "detail_key" filters.detailKey ++ text "detail_value" filters.detailValue ++
    time "created_after" filters.createdAfter ++ time "created_before" filters.createdBefore

structure AuditExportResponse where
  count : Nat
  limit : Nat
  truncated : Bool
  filters : List (String × (String ⊕ DateTime))
  events : List AuditEvent

def exportAuditEvents (filters : AuditFilters) (limit : Nat) (log : List AuditEvent) :
    Except Raised AuditExportResponse := do
  let events ← filterAuditEvents runtime filters log
  let exported := (events.take limit).map (redactAuditEvent runtime)
  return {
    count := exported.length
    limit
    truncated := decide (limit < events.length)
    filters := filterSummary filters
    events := exported }

end Filters

section Similarity

/-- Events that differ in values under sensitive detail keys only. -/
structure SimilarEvent (event other : AuditEvent) : Prop where
  id : event.id = other.id
  eventType : event.eventType = other.eventType
  actor : event.actor = other.actor
  entityId : event.entityId = other.entityId
  createdAt : event.createdAt = other.createdAt
  details : Document.SameFields (isSensitiveDetailKey runtime) event.details other.details

/-- Logs of one length whose events are similar, place by place. -/
def SimilarLogs (log other : List AuditEvent) : Prop := List.Forall₂ (SimilarEvent runtime) log other

/-- An exported event is a stored one with the marker under every sensitive key. -/
structure RedactedEvent (event exported : AuditEvent) : Prop where
  id : exported.id = event.id
  eventType : exported.eventType = event.eventType
  actor : exported.actor = event.actor
  entityId : exported.entityId = event.entityId
  createdAt : exported.createdAt = event.createdAt
  details : Document.RedactedFields (isSensitiveDetailKey runtime) (.text redactedDetailValue) event.details exported.details

/-- The export tells nothing of what it redacts. -/
structure LeaksNothing (filters : AuditFilters) (limit : Nat) : Prop where
  same : ∀ log other, SimilarLogs runtime log other →
    exportAuditEvents runtime filters limit log = exportAuditEvents runtime filters limit other
  redacted : ∀ log response, exportAuditEvents runtime filters limit log = .ok response →
    ∀ exported ∈ response.events, ∃ event ∈ log, RedactedEvent runtime event exported

/-- The point in time of a bound with an offset. -/
def boundInstant (bound : Option DateTime) : Option Int := bound.bind fun bound => bound.offset.map (bound.wall - ·)

/-- Some time is not excluded by the bounds; a naive lower bound raises for every time. -/
def WindowOpen (filters : AuditFilters) : Prop :=
  ∃ instant : Nat, (∃ wall, filters.createdAfter = some ⟨wall, none⟩) ∨
    (∀ bound ∈ boundInstant filters.createdAfter, bound ≤ instant) ∧
      ∀ bound ∈ boundInstant filters.createdBefore, (instant : Int) ≤ bound

/-- Whether a value has the text that a filter asks for does not depend on what is redacted in it. -/
def TextShown (key value : String) : Prop :=
  ∀ details others, Document.SameFields (isSensitiveDetailKey runtime) details others →
    (detailText runtime details key = value ↔ detailText runtime others key = value)

/-- A request that does not ask for what is redacted. -/
def AsksNothing (filters : AuditFilters) : Prop :=
  ∀ key value, filters.detailKey = some key → filters.detailValue = some value → WindowOpen filters →
    TextShown runtime key value

end Similarity

section Redacting

variable {runtime : Runtime}

theorem redactAuditEvent_similar (event : AuditEvent) : SimilarEvent runtime event (redactAuditEvent runtime event) :=
  ⟨rfl, rfl, rfl, rfl, rfl, Document.redactFields_sameFields event.details⟩

theorem SimilarEvent.redact {event other : AuditEvent} (similar : SimilarEvent runtime event other) :
    redactAuditEvent runtime event = redactAuditEvent runtime other := by
  have details : redactDetails runtime event.details = redactDetails runtime other.details := similar.details.redact
  obtain ⟨id, eventType, actor, entityId, createdAt, -⟩ := similar
  unfold redactAuditEvent
  rw [details]
  cases event
  cases other
  cases id
  cases eventType
  cases actor
  cases entityId
  cases createdAt
  rfl

theorem SimilarLogs.redact {log other : List AuditEvent} (similar : SimilarLogs runtime log other) :
    log.map (redactAuditEvent runtime) = other.map (redactAuditEvent runtime) := by
  unfold SimilarLogs at similar
  induction similar with
  | nil => rfl
  | cons event _ ih => exact List.cons_eq_cons.mpr ⟨event.redact, ih⟩

/-- A filter that redaction does not change. -/
theorem map_keepIf {α : Type} {value : Option α} {test : α → AuditEvent → Bool}
    (blind : ∀ asked, value = some asked → ∀ event, test asked (redactAuditEvent runtime event) = test asked event)
    (events : List AuditEvent) :
    keepIf value test (events.map (redactAuditEvent runtime)) = (keepIf value test events).map (redactAuditEvent runtime) := by
  unfold keepIf
  cases value with
  | none => rfl
  | some asked =>
    dsimp only
    rw [List.filter_map]
    congr 1
    apply List.filter_congr
    intro event _
    exact blind asked rfl event

theorem map_keepWithin (bound : Option DateTime) (holds : Int → Int → Bool) (events : List AuditEvent) :
    keepWithin bound holds (events.map (redactAuditEvent runtime)) =
      (keepWithin bound holds events).map (List.map (redactAuditEvent runtime)) := by
  unfold keepWithin
  cases bound with
  | none => rfl
  | some bound =>
    dsimp only
    cases bound.offset with
    | none =>
      cases events with
      | nil => rfl
      | cons event rest => rfl
    | some offset =>
      dsimp only
      rw [List.filter_map]
      rfl

theorem map_latestFirst (events : List AuditEvent) :
    latestFirst (events.map (redactAuditEvent runtime)) = (latestFirst events).map (redactAuditEvent runtime) := by
  unfold latestFirst
  rw [List.map_mergeSort]
  intro event _ other _
  rfl

/-- The filters before those on the time, which cannot raise. -/
def keepAsked (runtime : Runtime) (filters : AuditFilters) (log : List AuditEvent) : List AuditEvent :=
  let events := keepIf filters.eventType (fun value event => event.eventType == value) log
  let events := keepIf filters.entityId (fun value event => event.entityId == value) events
  let events := keepIf filters.actor (fun value event => event.actor == value) events
  let events := keepIf filters.detailKey (fun key event => (event.details.lookup key).isSome) events
  keepIf (filters.detailKey.bind fun key => filters.detailValue.map fun value => (key, value))
    (fun pair event => detailText runtime event.details pair.1 == pair.2) events

/-- The two filters on the time. -/
def keepWindow (filters : AuditFilters) (events : List AuditEvent) : Except Raised (List AuditEvent) := do
  let events ← keepWithin filters.createdAfter (fun created bound => decide (bound ≤ created)) events
  keepWithin filters.createdBefore (fun created bound => decide (created ≤ bound)) events

theorem filterAuditEvents_eq (filters : AuditFilters) (log : List AuditEvent) :
    filterAuditEvents runtime filters log = (keepWindow filters (keepAsked runtime filters log)).map latestFirst := by
  unfold filterAuditEvents keepWindow
  change (keepWithin filters.createdAfter _ (keepAsked runtime filters log) >>= _) = _
  cases keepWithin filters.createdAfter (fun created bound => decide (bound ≤ created)) (keepAsked runtime filters log) with
  | error error => rfl
  | ok events =>
    dsimp only [bind, Except.bind]
    cases keepWithin filters.createdBefore (fun created bound => decide (created ≤ bound)) events with
    | error error => rfl
    | ok events => rfl

theorem map_keepAsked {filters : AuditFilters} (shown : ∀ key value, filters.detailKey = some key →
      filters.detailValue = some value → TextShown runtime key value) (log : List AuditEvent) :
    keepAsked runtime filters (log.map (redactAuditEvent runtime)) =
      (keepAsked runtime filters log).map (redactAuditEvent runtime) := by
  unfold keepAsked
  dsimp only
  rw [map_keepIf fun _ _ _ => rfl, map_keepIf fun _ _ _ => rfl, map_keepIf fun _ _ _ => rfl, map_keepIf, map_keepIf]
  · intro pair asked event
    obtain ⟨key, value, detailKey, detailValue, same⟩ : ∃ key value, filters.detailKey = some key ∧
        filters.detailValue = some value ∧ pair = (key, value) := by
      obtain ⟨key, detailKey, found⟩ := Option.bind_eq_some_iff.mp asked
      obtain ⟨value, detailValue, same⟩ := Option.map_eq_some_iff.mp found
      exact ⟨key, value, detailKey, detailValue, same.symm⟩
    subst same
    exact decide_eq_decide.mpr (shown key value detailKey detailValue _ _ (redactAuditEvent_similar event).details).symm
  · intro key _ event
    exact ((redactAuditEvent_similar event).details.lookup_isSome key).symm

theorem map_keepWindow (filters : AuditFilters) (events : List AuditEvent) :
    keepWindow filters (events.map (redactAuditEvent runtime)) =
      (keepWindow filters events).map (List.map (redactAuditEvent runtime)) := by
  unfold keepWindow
  rw [map_keepWithin]
  cases keepWithin filters.createdAfter (fun created bound => decide (bound ≤ created)) events with
  | error error => rfl
  | ok events =>
    dsimp only [bind, Except.bind, Except.map]
    exact map_keepWithin _ _ _

/-- No event passes bounds that exclude every time. -/
theorem keepWindow_closed {filters : AuditFilters} (closed : ¬ WindowOpen filters) (events : List AuditEvent) :
    keepWindow filters events = .ok [] := by
  -- a bound without an offset raises, which would open the window
  have aware (wall : Int) : filters.createdAfter ≠ some ⟨wall, none⟩ := fun naive => closed ⟨0, .inl ⟨wall, naive⟩⟩
  have outside (instant : Nat) (late : ∀ bound ∈ boundInstant filters.createdAfter, bound ≤ instant) :
      ∃ bound ∈ boundInstant filters.createdBefore, bound < (instant : Int) := by
    by_contra none
    apply closed ⟨instant, .inr ⟨late, ?_⟩⟩
    intro bound member
    exact Int.not_lt.mp fun below => none ⟨bound, member, below⟩
  -- what passes the first bound is late enough
  obtain ⟨passed, kept, late⟩ : ∃ passed,
      keepWithin filters.createdAfter (fun created bound => decide (bound ≤ created)) events = .ok passed ∧
        ∀ event ∈ passed, ∀ bound ∈ boundInstant filters.createdAfter, bound ≤ event.createdAt := by
    unfold keepWithin boundInstant
    cases after : filters.createdAfter with
    | none => exact ⟨events, rfl, by simp⟩
    | some bound =>
      obtain ⟨wall, _ | offset⟩ := bound
      · exact absurd after (aware wall)
      · refine ⟨_, rfl, ?_⟩
        intro event member bound same
        cases same
        exact of_decide_eq_true (List.mem_filter.mp member).2
  -- and then it is too late for the second
  have early : keepWithin filters.createdBefore (fun created bound => decide (created ≤ bound)) passed = .ok [] := by
    cases passed with
    | nil =>
      unfold keepWithin
      cases filters.createdBefore with
      | none => rfl
      | some bound =>
        obtain ⟨wall, _ | offset⟩ := bound <;> rfl
    | cons first rest =>
      obtain ⟨bound, member, below⟩ := outside first.createdAt (late first List.mem_cons_self)
      unfold keepWithin
      unfold boundInstant at member outside
      cases before : filters.createdBefore with
      | none =>
        rw [before] at member
        cases member
      | some limit =>
        obtain ⟨wall, _ | offset⟩ := limit
        · rw [before] at member
          cases member
        · rw [before] at outside
          refine congrArg Except.ok (List.filter_eq_nil_iff.mpr ?_)
          intro event present
          obtain ⟨bound, member, below⟩ := outside event.createdAt (late event present)
          cases member
          simpa using below
  unfold keepWindow
  rw [kept]
  exact early

/-- The export of a log is the export of the redacted log. -/
theorem export_redacted {filters : AuditFilters} (asks : AsksNothing runtime filters) (limit : Nat) (log : List AuditEvent) :
    exportAuditEvents runtime filters limit (log.map (redactAuditEvent runtime)) =
      exportAuditEvents runtime filters limit log := by
  have filtered : filterAuditEvents runtime filters (log.map (redactAuditEvent runtime)) =
      (filterAuditEvents runtime filters log).map (List.map (redactAuditEvent runtime)) := by
    rw [filterAuditEvents_eq, filterAuditEvents_eq]
    by_cases opens : WindowOpen filters
    · rw [map_keepAsked fun key value detailKey detailValue => asks key value detailKey detailValue opens, map_keepWindow]
      cases keepWindow filters (keepAsked runtime filters log) with
      | error error => rfl
      | ok events => exact congrArg Except.ok (map_latestFirst events)
    · rw [keepWindow_closed opens, keepWindow_closed opens]
      exact congrArg Except.ok (map_latestFirst [])
  have twice : redactAuditEvent runtime ∘ redactAuditEvent runtime = redactAuditEvent runtime := by
    funext event
    exact (redactAuditEvent_similar event).redact.symm
  unfold exportAuditEvents
  rw [filtered]
  cases filterAuditEvents runtime filters log with
  | error error => rfl
  | ok events =>
    change Except.ok _ = Except.ok _
    simp only [List.map_take, List.map_map, twice, List.length_map]

theorem export_same {filters : AuditFilters} (asks : AsksNothing runtime filters) (limit : Nat) {log other : List AuditEvent}
    (similar : SimilarLogs runtime log other) :
    exportAuditEvents runtime filters limit log = exportAuditEvents runtime filters limit other := by
  rw [← export_redacted asks limit log, similar.redact, export_redacted asks]

theorem redactAuditEvent_redacted (event : AuditEvent) : RedactedEvent runtime event (redactAuditEvent runtime event) :=
  ⟨rfl, rfl, rfl, rfl, rfl, Document.redactFields_redacted event.details⟩

theorem keepIf_subset {α : Type} (value : Option α) (test : α → AuditEvent → Bool) (events : List AuditEvent) :
    keepIf value test events ⊆ events := by
  unfold keepIf
  cases value with
  | none => exact List.Subset.refl events
  | some asked => exact List.filter_subset_self events

theorem keepWithin_subset {bound : Option DateTime} {holds : Int → Int → Bool} {events kept : List AuditEvent}
    (ran : keepWithin bound holds events = .ok kept) : kept ⊆ events := by
  unfold keepWithin at ran
  cases bound with
  | none =>
    cases ran
    exact List.Subset.refl events
  | some bound =>
    obtain ⟨wall, _ | offset⟩ := bound
    · dsimp only at ran
      split at ran
      · cases ran
        exact List.nil_subset events
      · cases ran
    · cases ran
      exact List.filter_subset_self events

/-- The filters keep events of the log. -/
theorem filterAuditEvents_subset {filters : AuditFilters} {log events : List AuditEvent}
    (ran : filterAuditEvents runtime filters log = .ok events) : events ⊆ log := by
  rw [filterAuditEvents_eq] at ran
  unfold keepWindow at ran
  cases late : keepWithin filters.createdAfter (fun created bound => decide (bound ≤ created)) (keepAsked runtime filters log) with
  | error error =>
    rw [late] at ran
    cases ran
  | ok passed =>
    rw [late] at ran
    cases early : keepWithin filters.createdBefore (fun created bound => decide (created ≤ bound)) passed with
    | error error =>
      dsimp only [bind, Except.bind] at ran
      rw [early] at ran
      cases ran
    | ok kept =>
      dsimp only [bind, Except.bind] at ran
      rw [early] at ran
      cases ran
      intro event member
      have asked := keepWithin_subset late (keepWithin_subset early (List.mem_mergeSort.mp member))
      unfold keepAsked at asked
      exact keepIf_subset _ _ _ (keepIf_subset _ _ _ (keepIf_subset _ _ _ (keepIf_subset _ _ _ (keepIf_subset _ _ _ asked))))

theorem export_exported {filters : AuditFilters} {limit : Nat} {log : List AuditEvent} {response : AuditExportResponse}
    (ran : exportAuditEvents runtime filters limit log = .ok response) :
    ∀ exported ∈ response.events, ∃ event ∈ log, RedactedEvent runtime event exported := by
  unfold exportAuditEvents at ran
  cases filtered : filterAuditEvents runtime filters log with
  | error error =>
    rw [filtered] at ran
    cases ran
  | ok events =>
    rw [filtered] at ran
    cases ran
    intro exported member
    obtain ⟨event, present, rfl⟩ := List.mem_map.mp member
    exact ⟨event, filterAuditEvents_subset filtered (List.take_subset limit events present), redactAuditEvent_redacted event⟩

end Redacting

section Probe

variable {runtime : Runtime}

/-- An event that the other filters keep. -/
def probe (filters : AuditFilters) (instant : Nat) (details : List (String × Document)) : AuditEvent where
  id := "audit_1"
  eventType := filters.eventType.getD ""
  actor := filters.actor.getD ""
  entityId := filters.entityId.getD ""
  details
  createdAt := instant

theorem keepIf_given {value : Option String} {test : String → AuditEvent → Bool} {event : AuditEvent}
    (passes : test (value.getD "") event = true) : keepIf value test [event] = [event] := by
  cases value with
  | none => rfl
  | some asked => exact List.filter_eq_self.mpr (by simpa using passes)

/-- The filters on the details decide on such an event. -/
theorem keepAsked_probe {filters : AuditFilters} {key value : String} (detailKey : filters.detailKey = some key)
    (detailValue : filters.detailValue = some value) (instant : Nat) {details : List (String × Document)}
    (present : (details.lookup key).isSome = true) :
    keepAsked runtime filters [probe filters instant details] =
      if detailText runtime details key = value then [probe filters instant details] else [] := by
  unfold keepAsked
  dsimp only
  rw [keepIf_given (by simp [probe]), keepIf_given (by simp [probe]), keepIf_given (by simp [probe]), detailKey, detailValue]
  have key_there : keepIf (some key) (fun key event => (event.details.lookup key).isSome) [probe filters instant details] =
      [probe filters instant details] := List.filter_eq_self.mpr (by simpa [probe] using present)
  rw [key_there]
  unfold keepIf
  by_cases text : detailText runtime details key = value
  · rw [if_pos text]
    exact List.filter_eq_self.mpr (by simpa [probe] using text)
  · rw [if_neg text]
    exact List.filter_eq_nil_iff.mpr (by simpa [probe] using text)

theorem keepWithin_nil (bound : Option DateTime) (holds : Int → Int → Bool) : keepWithin bound holds [] = .ok [] := by
  unfold keepWithin
  cases bound with
  | none => rfl
  | some bound => obtain ⟨wall, _ | offset⟩ := bound <;> rfl

theorem keepWindow_nil (filters : AuditFilters) : keepWindow filters [] = .ok [] := by
  unfold keepWindow
  rw [keepWithin_nil]
  exact keepWithin_nil filters.createdBefore fun created bound => decide (created ≤ bound)

/-- In an open window an event shows, in the events or in an error. -/
theorem keepWindow_shows {filters : AuditFilters} {event : AuditEvent}
    (inside : (∃ wall, filters.createdAfter = some ⟨wall, none⟩) ∨
      (∀ bound ∈ boundInstant filters.createdAfter, bound ≤ event.createdAt) ∧
        ∀ bound ∈ boundInstant filters.createdBefore, (event.createdAt : Int) ≤ bound) :
    (∃ error, keepWindow filters [event] = .error error) ∨ keepWindow filters [event] = .ok [event] := by
  -- the second bound lets the event through or raises
  have before (early : ∀ bound ∈ boundInstant filters.createdBefore, (event.createdAt : Int) ≤ bound) :
      (∃ error, keepWithin filters.createdBefore (fun created bound => decide (created ≤ bound)) [event] = .error error) ∨
        keepWithin filters.createdBefore (fun created bound => decide (created ≤ bound)) [event] = .ok [event] := by
    unfold keepWithin
    unfold boundInstant at early
    generalize filters.createdBefore = bound at early
    rcases bound with _ | ⟨wall, _ | offset⟩
    · exact .inr rfl
    · exact .inl ⟨_, rfl⟩
    · have kept : (event.createdAt : Int) ≤ wall - offset := early _ rfl
      exact .inr (congrArg Except.ok (List.filter_eq_self.mpr (by simpa using kept)))
  unfold keepWindow
  rcases inside with ⟨wall, naive⟩ | ⟨late, early⟩
  · rw [naive]
    exact .inl ⟨_, rfl⟩
  · have after : (∃ error, keepWithin filters.createdAfter (fun created bound => decide (bound ≤ created)) [event] = .error error) ∨
        keepWithin filters.createdAfter (fun created bound => decide (bound ≤ created)) [event] = .ok [event] := by
      unfold keepWithin
      unfold boundInstant at late
      generalize filters.createdAfter = bound at late
      rcases bound with _ | ⟨wall, _ | offset⟩
      · exact .inr rfl
      · exact .inl ⟨_, rfl⟩
      · have kept : wall - offset ≤ (event.createdAt : Int) := late _ rfl
        exact .inr (congrArg Except.ok (List.filter_eq_self.mpr (by simpa using kept)))
    rcases after with ⟨error, stopped⟩ | passed
    · rw [stopped]
      exact .inl ⟨error, rfl⟩
    · rw [passed]
      exact before early

/-- The response to a request that no event passes. -/
theorem export_miss {filters : AuditFilters} {log : List AuditEvent} (limit : Nat)
    (missed : keepAsked runtime filters log = []) :
    exportAuditEvents runtime filters limit log = .ok ⟨0, limit, false, filterSummary filters, []⟩ := by
  unfold exportAuditEvents
  rw [filterAuditEvents_eq, missed, keepWindow_nil]
  unfold latestFirst
  simp [Except.map, bind, Except.bind, pure, Except.pure]

theorem export_hit {filters : AuditFilters} {event : AuditEvent} (limit : Nat)
    (hit : keepAsked runtime filters [event] = [event])
    (inside : (∃ wall, filters.createdAfter = some ⟨wall, none⟩) ∨
      (∀ bound ∈ boundInstant filters.createdAfter, bound ≤ event.createdAt) ∧
        ∀ bound ∈ boundInstant filters.createdBefore, (event.createdAt : Int) ≤ bound) :
    exportAuditEvents runtime filters limit [event] ≠ .ok ⟨0, limit, false, filterSummary filters, []⟩ := by
  unfold exportAuditEvents
  rw [filterAuditEvents_eq, hit]
  rcases keepWindow_shows inside with ⟨error, stopped⟩ | passed
  · rw [stopped]
    intro impossible
    cases impossible
  · rw [passed]
    intro same
    have shown := Except.ok.inj same
    have count := congrArg AuditExportResponse.count shown
    have truncated := congrArg AuditExportResponse.truncated shown
    simp [latestFirst] at count truncated
    omega

end Probe

section Exact

variable {runtime : Runtime} {filters : AuditFilters}

/-- A request whose exports tell nothing does not ask for what is redacted. -/
theorem LeaksNothing.asksNothing {limit : Nat} (leaks : LeaksNothing runtime filters limit) :
    AsksNothing runtime filters := by
  intro key value detailKey detailValue opens details others same
  obtain ⟨instant, inside⟩ := opens
  have similar : SimilarLogs runtime [probe filters instant details] [probe filters instant others] :=
    .cons ⟨rfl, rfl, rfl, rfl, rfl, same⟩ .nil
  have exports := leaks.same _ _ similar
  have shared := same.lookup_isSome key
  cases present : (details.lookup key).isSome with
  | false =>
    rw [present] at shared
    have none : details.lookup key = none := Option.not_isSome_iff_eq_none.mp (by rw [present]; exact Bool.noConfusion)
    have missing : others.lookup key = Option.none :=
      Option.not_isSome_iff_eq_none.mp (by rw [← shared]; exact Bool.noConfusion)
    unfold detailText
    rw [none, missing]
  | true =>
    rw [present] at shared
    have one := @keepAsked_probe runtime filters key value detailKey detailValue instant details present
    have two := @keepAsked_probe runtime filters key value detailKey detailValue instant others shared.symm
    -- a probe that one log answers and the other does not would tell them apart
    by_cases left : detailText runtime details key = value
    · by_cases right : detailText runtime others key = value
      · exact iff_of_true left right
      · rw [if_pos left] at one
        rw [if_neg right] at two
        exact absurd (exports.trans (export_miss limit two)) (export_hit limit one inside)
    · by_cases right : detailText runtime others key = value
      · rw [if_neg left] at one
        rw [if_pos right] at two
        exact absurd (exports.symm.trans (export_miss limit one)) (export_hit limit two inside)
      · exact iff_of_false left right

/-- A filter on the value of a sensitive key asks for what is redacted. -/
theorem sensitive_key_asks {key value : String} (detailKey : filters.detailKey = some key)
    (detailValue : filters.detailValue = some value) (sensitive : isSensitiveDetailKey runtime key = true)
    (opens : WindowOpen filters) : ¬ AsksNothing runtime filters := by
  intro asks
  have shown := asks key value detailKey detailValue opens [(key, .text value)] [(key, .text (value ++ "x"))]
    (.hidden _ _ sensitive .nil)
  unfold detailText at shown
  rw [List.lookup_cons_self, List.lookup_cons_self] at shown
  have longer := congrArg String.length (shown.mp rfl)
  rw [String.length_append] at longer
  have one : "x".length = 1 := rfl
  omega

/-- The export leaks nothing for exactly the requests that do not ask for what is redacted. -/
theorem export_leaks_nothing_iff (runtime : Runtime) (filters : AuditFilters) (limit : Nat) :
    LeaksNothing runtime filters limit ↔ AsksNothing runtime filters := by
  constructor
  · exact LeaksNothing.asksNothing
  · intro asks
    exact ⟨fun log other similar => export_same asks limit similar, fun log response => export_exported⟩

/-- A request for the events with a given token. -/
def tokenGuess : AuditFilters := ⟨none, none, none, some "token", some "guess", none, none⟩

/-- The number of exported events tells whether a token was guessed. -/
theorem token_guess_leaks :
    ¬ ∀ (runtime : Runtime) (filters : AuditFilters) (limit : Nat), LeaksNothing runtime filters limit := by
  intro always
  have opens : WindowOpen tokenGuess := by
    refine ⟨0, .inr ⟨?_, ?_⟩⟩
    · intro bound impossible
      cases impossible
    · intro bound impossible
      cases impossible
  have sensitive : isSensitiveDetailKey (Runtime.plain true) "token" = true := by decide
  exact sensitive_key_asks rfl rfl sensitive opens (always (Runtime.plain true) tokenGuess 1000).asksNothing

end Exact

end ControlTower.Audit
