/-! Machines that take one request after another. Everything a request does not
determine, such as what a caller or a remote service answers, is part of the
request, so a machine is a function of its state and its request. -/

set_option autoImplicit false

namespace ControlTower.Foundation

structure Machine (σ ω : Type) where
  initial : σ → Prop
  next : σ → ω → σ

namespace Machine

variable {σ ω : Type} {machine : Machine σ ω} {allowed : σ → ω → Prop}

/-- A finite run in which every request is allowed in the state it meets. -/
inductive Follows (machine : Machine σ ω) (allowed : σ → ω → Prop) : σ → σ → Prop where
  | done (state : σ) : Follows machine allowed state state
  | step {first last : σ} (request : ω) : Follows machine allowed first last →
      allowed last request → Follows machine allowed first (machine.next last request)

/-- The states that allowed runs reach from an initial state. -/
def Reachable (machine : Machine σ ω) (allowed : σ → ω → Prop) (state : σ) : Prop :=
  ∃ first, machine.initial first ∧ Follows machine allowed first state

/-- No request is excluded. -/
def anything : σ → ω → Prop := fun _ _ => True

theorem Follows.trans {first middle last : σ} (left : Follows machine allowed first middle)
    (right : Follows machine allowed middle last) : Follows machine allowed first last := by
  induction right with
  | done => exact left
  | step request _ permitted ih => exact .step request ih permitted

theorem Follows.mono {wide : σ → ω → Prop} {first last : σ} (follows : Follows machine allowed first last)
    (widen : ∀ state request, allowed state request → wide state request) :
    Follows machine wide first last := by
  induction follows with
  | done => exact .done _
  | step request _ permitted ih => exact .step request ih (widen _ _ permitted)

/-- A relation that every allowed step extends relates the ends of every run. -/
theorem Follows.relates {relation : σ → σ → Prop} {first last : σ}
    (follows : Follows machine allowed first last) (reflexive : relation first first)
    (extend : ∀ state request, relation first state → allowed state request →
      relation first (machine.next state request)) : relation first last := by
  induction follows with
  | done => exact reflexive
  | step request _ permitted ih => exact extend _ request ih permitted

theorem Follows.keeps {invariant : σ → Prop} {first last : σ}
    (follows : Follows machine allowed first last) (start : invariant first)
    (keep : ∀ state request, invariant state → allowed state request →
      invariant (machine.next state request)) : invariant last := by
  induction follows with
  | done => exact start
  | step request _ permitted ih => exact keep _ request ih permitted

theorem Reachable.start {state : σ} (initial : machine.initial state) :
    Reachable machine allowed state := ⟨state, initial, .done state⟩

theorem Reachable.next {state : σ} (reachable : Reachable machine allowed state) (request : ω)
    (permitted : allowed state request) : Reachable machine allowed (machine.next state request) := by
  obtain ⟨first, initial, follows⟩ := reachable
  exact ⟨first, initial, .step request follows permitted⟩

theorem Reachable.follow {first last : σ} (reachable : Reachable machine allowed first)
    (follows : Follows machine allowed first last) : Reachable machine allowed last := by
  obtain ⟨start, initial, before⟩ := reachable
  exact ⟨start, initial, before.trans follows⟩

/-- What holds initially and survives every allowed step holds in every reachable state. -/
theorem Reachable.invariant {invariant : σ → Prop} {state : σ}
    (reachable : Reachable machine allowed state)
    (start : ∀ state, machine.initial state → invariant state)
    (keep : ∀ state request, invariant state → allowed state request →
      invariant (machine.next state request)) : invariant state := by
  obtain ⟨first, initial, follows⟩ := reachable
  exact follows.keeps (start first initial) keep

/-- Run a list of requests, the first one first. -/
def runAll (machine : Machine σ ω) (state : σ) (requests : List ω) : σ :=
  requests.foldl machine.next state

/-- Every request of a list is allowed in the state it meets. -/
def AllowedAll (machine : Machine σ ω) (allowed : σ → ω → Prop) : σ → List ω → Prop
  | _, [] => True
  | state, request :: rest =>
      allowed state request ∧ AllowedAll machine allowed (machine.next state request) rest

theorem follows_runAll (state : σ) (requests : List ω)
    (permitted : AllowedAll machine allowed state requests) :
    Follows machine allowed state (machine.runAll state requests) := by
  induction requests generalizing state with
  | nil => exact .done state
  | cons request rest ih =>
    exact Follows.trans (.step request (.done state) permitted.1) (ih _ permitted.2)

theorem follows_anything (state : σ) (requests : List ω) :
    Follows machine anything state (machine.runAll state requests) := by
  induction requests generalizing state with
  | nil => exact .done state
  | cons request rest ih =>
    exact Follows.trans (.step request (.done state) trivial) (ih _)

end Machine

end ControlTower.Foundation
