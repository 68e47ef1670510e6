import ControlTower.Foundation.Schema
import ControlTower.Run.System
import ControlTower.Trust.FlightRecorder

/-! The flight recorder across a restart. The rows of the trust events are
written with another serializer than the one whose text is hashed: a point in
time inside a payload comes back as a text. -/

set_option autoImplicit false

namespace ControlTower

open Foundation

/-- A trust event after `persist` and `load`. The typed fields come back as they were. -/
def restartEvent (isoText : Instant → String) (event : TrustEvent) : TrustEvent :=
  { event with payload := event.payload.reread isoText }

/-- The trust events after `persist` and `load`, in the order of their rows. -/
def restartEvents (isoText : Instant → String) (events : Table String TrustEvent) : Table String TrustEvent :=
  (events.mapValues fun _ event => restartEvent isoText event).byKey

section Restart

variable {runtime : Runtime} {isoText : Instant → String} {events : Table String TrustEvent}

theorem restartEvents_perm :
    (restartEvents isoText events).values.Perm (events.values.map (restartEvent isoText)) := by
  rw [← Table.values_mapValues (restartEvent isoText) events]
  exact Table.byKey_perm _

theorem restart_valid_iff_sealed (valid : (verifyFlightRecorder runtime events).valid = true) :
    (verifyFlightRecorder runtime (restartEvents isoText events)).valid = true ↔
      ∀ event ∈ events.values, runtime.sha256Hex (eventMaterial (restartEvent isoText event)) =
        runtime.sha256Hex (eventMaterial event) := by
  have intact := valid_intact valid
  rw [verifyFlightRecorder_valid, Sealing.chained_iff_intact]
  have listed : (eventSealing runtime).Intact (restartEvents isoText events).values ↔
      (eventSealing runtime).Intact (events.values.map (restartEvent isoText)) :=
    ⟨fun intact => intact.perm restartEvents_perm, fun intact => intact.perm restartEvents_perm.symm⟩
  rw [listed, intact.map_iff (restartEvent isoText) (fun _ => rfl) (fun _ => rfl) (fun _ => rfl)]
  constructor
  · intro marked event member
    exact (marked event member).trans (intact.sealed event member).symm
  · intro same event member
    exact (same event member).trans (intact.sealed event member)

end Restart

/-- A valid flight recorder is valid after a restart exactly when no payload
holds a point in time, provided that the digest tells an event from its other
rendering. -/
theorem restart_valid_iff (runtime : Runtime) (isoText : Instant → String)
    (distinct : ∀ event : TrustEvent,
      runtime.sha256Hex (eventMaterial (restartEvent isoText event)) = runtime.sha256Hex (eventMaterial event) →
        eventMaterial (restartEvent isoText event) = eventMaterial event)
    (events : Table String TrustEvent) (valid : (verifyFlightRecorder runtime events).valid = true) :
    (verifyFlightRecorder runtime (restartEvents isoText events)).valid = true ↔
      ∀ event ∈ events.values, event.payload.holdsInstant = false := by
  rw [restart_valid_iff_sealed valid]
  have payload : ∀ event : TrustEvent, eventMaterial (restartEvent isoText event) = eventMaterial event ↔
      event.payload.holdsInstant = false := by
    intro event
    rw [← Document.reread_eq isoText]
    simp [eventMaterial, restartEvent]
  constructor
  · intro same event member
    exact (payload event).mp (distinct event (same event member))
  · intro free event member
    rw [(payload event).mpr (free event member)]

theorem restart_valid_iff_sample :
    (verifyFlightRecorder (.exact false) (restartEvents Nat.repr (sampleEvents (.exact false)))).valid = true ↔
      ∀ event ∈ (sampleEvents (.exact false)).values, event.payload.holdsInstant = false :=
  restart_valid_iff (.exact false) Nat.repr (fun _ same => ofList_code_injective _ _ same) _ (sampleEvents_valid _)

section Sample

/-- After the first lease was issued the recorder is valid, and no longer so after a restart. -/
theorem restart_breaks_recorder :
    ¬ ∀ store, (runMachine (.plain false)).Reachable Machine.anything store →
      (verifyFlightRecorder (.plain false) store.trustEvents).valid = true →
        (verifyFlightRecorder (.plain false) (restartEvents Nat.repr store.trustEvents)).valid = true := by
  intro survives
  have broken := survives _ (storeAfter_reachable (.plain false) [.issueLease (leaseRequest .strict) sampleOwner])
    (by decide +kernel)
  revert broken
  decide +kernel

end Sample

end ControlTower
