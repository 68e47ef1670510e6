import ControlTower.Foundation.Chain
import ControlTower.Trust.Service

/-! The flight recorder: trust events in a chain of digests, its verification,
and what a verified chain says about the events in it. -/

set_option autoImplicit false

namespace ControlTower

open Foundation
open Foundation.Procedure

structure FlightRecorderVerification where
  valid : Bool
  eventCount : Nat
  firstInvalidSequence : Option Int
  reason : String
  deriving DecidableEq

def verifyOrderedEvents (runtime : Runtime) (eventCount : Nat) :
    Option String → Int → List TrustEvent → FlightRecorderVerification
  | _, _, [] => { valid := true, eventCount, firstInvalidSequence := none, reason := "" }
  | expectedPrevious, expectedSequence, event :: rest =>
      if event.sequence ≠ expectedSequence then
        { valid := false, eventCount, firstInvalidSequence := some event.sequence
          reason := s!"Expected sequence {expectedSequence}, got {event.sequence}." }
      else if event.previousHash ≠ expectedPrevious then
        { valid := false, eventCount, firstInvalidSequence := some event.sequence
          reason := "Hash-chain predecessor mismatch." }
      else if runtime.sha256Hex (eventMaterial event) ≠ event.eventHash then
        { valid := false, eventCount, firstInvalidSequence := some event.sequence
          reason := "Event payload hash mismatch." }
      else verifyOrderedEvents runtime eventCount (some event.eventHash) (expectedSequence + 1) rest

def verifyFlightRecorder (runtime : Runtime) (events : Table String TrustEvent) : FlightRecorderVerification :=
  let ordered := events.values.insertionSort fun event other => event.sequence ≤ other.sequence
  verifyOrderedEvents runtime ordered.length none 1 ordered

theorem ofText_injective {left right : Option String} (same : Document.ofText left = Document.ofText right) :
    left = right := by
  cases left <;> cases right <;> simp [Document.ofText] at same
  · rfl
  · rw [same]

/-- How trust events are numbered, linked and hashed. -/
def eventSealing (runtime : Runtime) : Sealing TrustEvent Document String where
  number := TrustEvent.sequence
  previous := TrustEvent.previousHash
  mark := TrustEvent.eventHash
  material := eventMaterial
  digest := runtime.sha256Hex
  numbered event other same := by
    simp [eventMaterial] at same
    exact same.2.2.2.2.2.2.2.2
  linked event other same := by
    simp [eventMaterial] at same
    exact ofText_injective same.2.2.2.2.2.2.2.1

section Verification

variable {runtime : Runtime} {events : Table String TrustEvent}

theorem verifyOrderedEvents_valid (eventCount : Nat) (previous : Option String) (sequence : Int)
    (ordered : List TrustEvent) :
    (verifyOrderedEvents runtime eventCount previous sequence ordered).valid = true ↔
      (eventSealing runtime).Chained previous sequence ordered := by
  induction ordered generalizing previous sequence with
  | nil => simp [verifyOrderedEvents, Sealing.Chained]
  | cons event rest ih =>
    unfold verifyOrderedEvents
    by_cases numbered : event.sequence = sequence
    · by_cases linked : event.previousHash = previous
      · by_cases hashed : runtime.sha256Hex (eventMaterial event) = event.eventHash
        · simp [Sealing.Chained, Sealing.Sealed, eventSealing, numbered, linked, hashed, ih]
        · simp [Sealing.Chained, Sealing.Sealed, eventSealing, numbered, linked, hashed]
      · simp [Sealing.Chained, eventSealing, numbered, linked]
    · simp [Sealing.Chained, eventSealing, numbered]

/-- The recorder is valid exactly when its events in order form a chain. -/
theorem verifyFlightRecorder_valid :
    (verifyFlightRecorder runtime events).valid = true ↔
      (eventSealing runtime).Chained none 1 ((eventSealing runtime).inOrder events.values) :=
  verifyOrderedEvents_valid _ none 1 _

theorem valid_intact (valid : (verifyFlightRecorder runtime events).valid = true) :
    (eventSealing runtime).Intact events.values :=
  (verifyFlightRecorder_valid.mp valid).intact

theorem sequence_le_latest {store : Store} {last : TrustEvent} (picked : store.latestTrustEvent = some last) :
    ∀ event ∈ store.trustEvents.values, event.sequence ≤ last.sequence :=
  Selection.key_le_pick (fun _ _ => decide_eq_true_iff) picked

/-- The latest event of a valid recorder is the last one in order. -/
theorem latestTrustEvent_last {store : Store}
    (chained : (eventSealing runtime).Chained none 1 ((eventSealing runtime).inOrder store.trustEvents.values)) :
    store.latestTrustEvent = ((eventSealing runtime).inOrder store.trustEvents.values).getLast? := by
  have intact := chained.intact
  cases picked : store.latestTrustEvent with
  | none =>
    rw [Store.latestTrustEvent, Selection.pick_eq_none] at picked
    simp [picked, Sealing.inOrder]
  | some last =>
    have member := Selection.pick_mem picked
    have bound := (intact.complete last.sequence).mp ⟨last, member, rfl⟩
    obtain ⟨top, topMember, topNumber⟩ := (intact.complete store.trustEvents.values.length).mpr ⟨by omega, le_rfl⟩
    have greatest : top.sequence ≤ last.sequence := sequence_le_latest picked top topMember
    have topNumber : top.sequence = store.trustEvents.values.length := topNumber
    apply Eq.symm
    apply chained.last_of_number last member
    show last.sequence = _
    omega

theorem below_next {store : Store} (event : TrustEvent) (member : event ∈ store.trustEvents.values) :
    event.sequence < (store.latestTrustEvent.map (·.sequence + 1)).getD 1 := by
  cases picked : store.latestTrustEvent with
  | none =>
    rw [Store.latestTrustEvent, Selection.pick_eq_none] at picked
    rw [picked] at member
    cases member
  | some last =>
    have bound : event.sequence ≤ last.sequence := sequence_le_latest picked event member
    simp only [Option.map_some, Option.getD_some]
    omega

/-- The next event continues a valid chain. -/
theorem appendTrustEvent_valid {store : Store} {eventType : TrustEventType} {entityType entityId actor : String}
    {correlationId : Option String} {payload : Document}
    (valid : (verifyFlightRecorder runtime store.trustEvents).valid = true) :
    (appendTrustEvent runtime eventType entityType entityId actor correlationId payload).Ends store
      fun _ after => (verifyFlightRecorder runtime after.trustEvents).valid = true := by
  rw [verifyFlightRecorder_valid] at valid
  have last := latestTrustEvent_last valid
  simp only [appendTrustEvent, ends_bind, ends_readClock, continue_ok, ends_modify]
  have unticked : (Clocked.tick store).trustEvents = store.trustEvents := rfl
  have unmoved : (Clocked.tick store).latestTrustEvent = store.latestTrustEvent := rfl
  rw [verifyFlightRecorder_valid, Table.values_set_fresh _ (runtime.newId_fresh _ _), unticked, unmoved,
    Sealing.inOrder_concat (by exact below_next), Sealing.chained_concat]
  refine ⟨valid, ?_, ?_, rfl⟩
  · show (store.latestTrustEvent.map (·.sequence + 1)).getD 1 = _
    rw [last]
    rcases List.eq_nil_or_concat' ((eventSealing runtime).inOrder store.trustEvents.values) with empty | ⟨rest, top, split⟩
    · simp [empty]
    · rw [split] at valid ⊢
      have number : top.sequence = 1 + (rest.length : Int) := ((Sealing.chained_concat top).mp valid).2.1
      simp [number]
      omega
  · show store.latestTrustEvent.map (·.eventHash) = _
    rw [last, Sealing.lastMark_eq]
    rfl

end Verification

/-- The hash on the last event in order. -/
def lastEventHash (events : Table String TrustEvent) : Option String :=
  (events.values.insertionSort fun event other => event.sequence ≤ other.sequence).getLast?.map (·.eventHash)

/-- Two sets of events hold the same hashed material, sequence number by sequence number. -/
def SameMaterial (left right : Table String TrustEvent) : Prop :=
  (∀ sequence, (∃ event ∈ left.values, event.sequence = sequence) ↔ ∃ event ∈ right.values, event.sequence = sequence) ∧
    ∀ event ∈ left.values, ∀ twin ∈ right.values, event.sequence = twin.sequence →
      eventMaterial event = eventMaterial twin

/-- What an attacker can do to the stored events. -/
inductive Tampered (events : Table String TrustEvent) : Table String TrustEvent → Prop where
  /-- One event is changed: in its material or its hash where a later event
  stands, in its material alone where none does. -/
  | altered {key : String} {event : TrustEvent} (changed : TrustEvent) (stored : events.get? key = some event)
      (differs : eventMaterial changed ≠ eventMaterial event ∨ changed.eventHash ≠ event.eventHash)
      (place : (∃ later ∈ events.values, event.sequence < later.sequence) ∨ changed.eventHash = event.eventHash) :
      Tampered events (events.set key changed)
  /-- Events are taken away, one of them before an event that stays. -/
  | removed {key other : String} {gone left : TrustEvent} (retained : String → Bool)
      (taken : events.get? key = some gone) (dropped : retained key = false)
      (stored : events.get? other = some left) (stays : retained other = true) (gap : gone.sequence < left.sequence) :
      Tampered events (events.keep retained)
  /-- Two events exchange their sequence numbers. -/
  | exchanged {key other : String} {event twin : TrustEvent} (different : key ≠ other)
      (stored : events.get? key = some event) (second : events.get? other = some twin) :
      Tampered events ((events.set key { event with sequence := twin.sequence }).set other
        { twin with sequence := event.sequence })

section Tampering

variable {runtime : Runtime} {events : Table String TrustEvent}

theorem key_of_sequence (intact : (eventSealing runtime).Intact events.values) {key other : String}
    {event twin : TrustEvent} (stored : events.get? key = some event) (second : events.get? other = some twin)
    (same : event.sequence = twin.sequence) : key = other := by
  have nodup : (events.rows.map fun row => row.2.sequence).Nodup := by
    have nodup := intact.nodup
    rw [Table.values, List.map_map] at nodup
    exact nodup
  have rows : (key, event) = (other, twin) :=
    List.inj_on_of_nodup_map nodup (Table.get?_eq_some.mp stored) (Table.get?_eq_some.mp second) same
  exact congrArg Prod.fst rows

theorem mem_of_get {key : String} {event : TrustEvent} (stored : events.get? key = some event) :
    event ∈ events.values :=
  Table.mem_values.mpr ⟨key, stored⟩

/-- Valid recorders of one length that agree on the last hash hold the same material. -/
theorem valid_agree (faithful : (eventSealing runtime).Faithful) {left right : Table String TrustEvent}
    (valid : (verifyFlightRecorder runtime left).valid = true)
    (other : (verifyFlightRecorder runtime right).valid = true) (long : left.values.length = right.values.length)
    (last : lastEventHash left = lastEventHash right) : SameMaterial left right := by
  have intact := valid_intact valid
  have twins := valid_intact other
  have top : ∀ {events : Table String TrustEvent}, (verifyFlightRecorder runtime events).valid = true →
      ∀ event ∈ events.values, event.sequence = events.values.length → lastEventHash events = some event.eventHash := by
    intro events valid event member number
    have last := (verifyFlightRecorder_valid.mp valid).last_of_number event member number
    exact congrArg (Option.map (·.eventHash)) last
  constructor
  · intro sequence
    exact (intact.complete sequence).trans (long ▸ (twins.complete sequence).symm)
  · apply intact.agree faithful twins long
    intro event member twin twinMember number twinNumber
    have first := top valid event member number
    have second := top other twin twinMember (by rw [← long]; exact twinNumber)
    rw [last, second] at first
    exact (Option.some.inj first).symm

theorem altered_invalid (faithful : (eventSealing runtime).Faithful)
    (intact : (eventSealing runtime).Intact events.values) {key : String} {event changed : TrustEvent}
    (stored : events.get? key = some event)
    (differs : eventMaterial changed ≠ eventMaterial event ∨ changed.eventHash ≠ event.eventHash)
    (place : (∃ later ∈ events.values, event.sequence < later.sequence) ∨ changed.eventHash = event.eventHash)
    (after : (eventSealing runtime).Intact (events.set key changed).values) : False := by
  have known : key ∈ events.keys := Table.mem_keys.mpr ⟨event, stored⟩
  have long : events.values.length = (events.set key changed).values.length := by
    have keys := congrArg List.length (Table.keys_set_known changed known)
    simpa [Table.keys, Table.values] using keys.symm
  -- all events but the changed one are those of before
  have stays : ∀ other ∈ (events.set key changed).values, other = changed ∨
      ∃ name, name ≠ key ∧ events.get? name = some other := by
    intro other member
    obtain ⟨name, found⟩ := Table.mem_values.mp member
    rw [Table.get?_set] at found
    by_cases same : name = key
    · rw [if_pos same] at found
      exact .inl (Option.some.inj found).symm
    · rw [if_neg same] at found
      exact .inr ⟨name, same, found⟩
  have placed : changed ∈ (events.set key changed).values :=
    mem_of_get (Table.get?_set_self events key changed)
  -- the changed event has to fill the place of the old one
  have number : changed.sequence = event.sequence := by
    have bound := (intact.complete event.sequence).mp ⟨event, mem_of_get stored, rfl⟩
    obtain ⟨other, member, same⟩ := (after.complete event.sequence).mpr ⟨bound.1, by omega⟩
    rcases stays other member with rfl | ⟨name, away, found⟩
    · exact same
    · exact absurd (key_of_sequence intact found stored same) away
  have sealedBefore : runtime.sha256Hex (eventMaterial event) = event.eventHash :=
    intact.sealed event (mem_of_get stored)
  have sealedAfter : runtime.sha256Hex (eventMaterial changed) = changed.eventHash := after.sealed changed placed
  -- either a later event has sealed the content, or the hash does
  have material : eventMaterial event = eventMaterial changed := by
    rcases place with ⟨later, laterMember, below⟩ | hash
    · apply intact.agree faithful after long _ event (mem_of_get stored) changed placed number.symm
      intro entry member twin twinMember entryNumber twinNumber
      have entryNumber : entry.sequence = events.values.length := entryNumber
      have twinNumber : twin.sequence = events.values.length := twinNumber
      rcases stays twin twinMember with rfl | ⟨name, _, found⟩
      · have bound : later.sequence ≤ events.values.length := ((intact.complete _).mp ⟨later, laterMember, rfl⟩).2
        omega
      · have same : entry = twin := intact.eq_of_number member (mem_of_get found) (entryNumber.trans twinNumber.symm)
        rw [same]
    · apply faithful event changed
      show runtime.sha256Hex (eventMaterial event) = runtime.sha256Hex (eventMaterial changed)
      rw [sealedBefore, sealedAfter, hash]
  rcases differs with content | hash
  · exact content material.symm
  · exact hash (by rw [← sealedAfter, ← material, sealedBefore])

theorem removed_invalid (intact : (eventSealing runtime).Intact events.values) {key other : String}
    {gone left : TrustEvent} {retained : String → Bool} (taken : events.get? key = some gone)
    (dropped : retained key = false) (stored : events.get? other = some left) (stays : retained other = true)
    (gap : gone.sequence < left.sequence) (after : (eventSealing runtime).Intact (events.keep retained).values) :
    False := by
  have kept : (events.keep retained).get? other = some left := by simp [stays, stored]
  have low := ((intact.complete gone.sequence).mp ⟨gone, mem_of_get taken, rfl⟩).1
  have high : left.sequence ≤ (events.keep retained).values.length :=
    ((after.complete left.sequence).mp ⟨left, mem_of_get kept, rfl⟩).2
  obtain ⟨twin, member, number⟩ := (after.complete gone.sequence).mpr ⟨low, by omega⟩
  obtain ⟨name, found⟩ := Table.mem_values.mp member
  rw [Table.get?_keep] at found
  by_cases held : retained name = true
  · rw [if_pos held] at found
    have same := key_of_sequence intact found taken number
    rw [same, dropped] at held
    cases held
  · simp [held] at found

theorem exchanged_invalid (faithful : (eventSealing runtime).Faithful)
    (intact : (eventSealing runtime).Intact events.values) {key other : String} {event twin : TrustEvent}
    (different : key ≠ other) (stored : events.get? key = some event) (second : events.get? other = some twin)
    (after : (eventSealing runtime).Intact ((events.set key { event with sequence := twin.sequence }).set other
      { twin with sequence := event.sequence }).values) : False := by
  have hashed : runtime.sha256Hex (eventMaterial { twin with sequence := event.sequence }) = twin.eventHash :=
    after.sealed _ (mem_of_get (Table.get?_set_self _ other _))
  have before : runtime.sha256Hex (eventMaterial twin) = twin.eventHash := intact.sealed twin (mem_of_get second)
  have material : eventMaterial { twin with sequence := event.sequence } = eventMaterial twin :=
    faithful { twin with sequence := event.sequence } twin (hashed.trans before.symm)
  have number : event.sequence = twin.sequence := 
    (eventSealing runtime).numbered { twin with sequence := event.sequence } twin material
  exact different (key_of_sequence intact stored second number)

/-- Tampering with a valid recorder shows. -/
theorem tampered_invalid (faithful : (eventSealing runtime).Faithful) {tampered : Table String TrustEvent}
    (valid : (verifyFlightRecorder runtime events).valid = true) (tampering : Tampered events tampered) :
    (verifyFlightRecorder runtime tampered).valid = false := by
  apply Bool.eq_false_iff.mpr
  intro passed
  have intact := valid_intact valid
  have after := valid_intact passed
  cases tampering with
  | altered changed stored differs place => exact altered_invalid faithful intact stored differs place after
  | removed retained taken dropped stored stays gap => exact removed_invalid intact taken dropped stored stays gap after
  | exchanged different stored second => exact exchanged_invalid faithful intact different stored second after

end Tampering

/-- The flight recorder stays valid under its own appends, its last hash commits
to all of its material, and tampering with it shows. -/
theorem flightRecorder_tamperEvident (runtime : Runtime)
    (injective : ∀ event other : TrustEvent,
      runtime.sha256Hex (eventMaterial event) = runtime.sha256Hex (eventMaterial other) →
        eventMaterial event = eventMaterial other) :
    (∀ (store : Store) (eventType : TrustEventType) (entityType entityId actor : String)
        (correlationId : Option String) (payload : Document),
      (verifyFlightRecorder runtime store.trustEvents).valid = true →
        (verifyFlightRecorder runtime ((appendTrustEvent runtime eventType entityType entityId actor correlationId
          payload).run store).2.trustEvents).valid = true) ∧
    (∀ left right : Table String TrustEvent, (verifyFlightRecorder runtime left).valid = true →
      (verifyFlightRecorder runtime right).valid = true → left.values.length = right.values.length →
        lastEventHash left = lastEventHash right → SameMaterial left right) ∧
    ∀ events tampered : Table String TrustEvent, (verifyFlightRecorder runtime events).valid = true →
      Tampered events tampered → (verifyFlightRecorder runtime tampered).valid = false := by
  refine ⟨?_, ?_, ?_⟩
  · intro store eventType entityType entityId actor correlationId payload valid
    exact appendTrustEvent_valid valid
  · intro left right valid other long last
    exact valid_agree injective valid other long last
  · intro events tampered valid tampering
    exact tampered_invalid injective valid tampering

section Sample

def sampleEvent (runtime : Runtime) (sequence : Int) (previousHash : Option String) (command : String) : TrustEvent :=
  let event : TrustEvent :=
    { id := "trust_event"
      sequence
      eventType := .actionReceived
      entityType := "proposed_action"
      entityId := "action_1"
      actor := "agent:one"
      correlationId := none
      payload := .object [("command", .text command)]
      previousHash
      eventHash := "pending"
      createdAt := 0 }
  { event with eventHash := runtime.sha256Hex (eventMaterial event) }

/-- A recorder with two events. -/
def sampleEvents (runtime : Runtime) : Table String TrustEvent :=
  let first := sampleEvent runtime 1 none "pytest"
  (Table.empty.set "trust_event_1" first).set "trust_event_2" (sampleEvent runtime 2 (some first.eventHash) "ruff")

def forgedEvent (runtime : Runtime) : TrustEvent :=
  { sampleEvent runtime 1 none "pytest" with payload := .object [("command", .text "rm")] }

theorem sampleEvents_valid (runtime : Runtime) : (verifyFlightRecorder runtime (sampleEvents runtime)).valid = true := by
  rw [verifyFlightRecorder_valid]
  exact ⟨rfl, rfl, rfl, rfl, rfl, rfl, trivial⟩

theorem sampleEvents_tampered (runtime : Runtime) :
    Tampered (sampleEvents runtime) ((sampleEvents runtime).set "trust_event_1" (forgedEvent runtime)) := by
  have stored : (sampleEvents runtime).get? "trust_event_1" = some (sampleEvent runtime 1 none "pytest") := rfl
  apply Tampered.altered (forgedEvent runtime) stored
  · exact .inl (by simp [forgedEvent, sampleEvent, eventMaterial])
  · exact .inr rfl

theorem flightRecorder_tamperEvident_sample :
    (verifyFlightRecorder (.exact false) ((sampleEvents (.exact false)).set "trust_event_1"
      (forgedEvent (.exact false)))).valid = false :=
  (flightRecorder_tamperEvident (.exact false) fun _ _ same => ofList_code_injective _ _ same).2.2 _ _
    (sampleEvents_valid _) (sampleEvents_tampered _)

end Sample

end ControlTower
