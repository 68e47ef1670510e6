import Mathlib.Algebra.Group.Pi.Basic
import ControlTower.Foundation.Machine

/-! What a run of a machine adds up to, and invariants that depend on the sum so far. -/

set_option autoImplicit false

namespace ControlTower.Foundation.Machine

variable {σ ω κ : Type} [AddMonoid κ] {machine : Machine σ ω} {weight : σ → ω → κ}

/-- The weights of the requests of a run, each in the state it meets. -/
def tally (machine : Machine σ ω) (weight : σ → ω → κ) : σ → List ω → κ
  | _, [] => 0
  | state, request :: rest => weight state request + tally machine weight (machine.next state request) rest

/-- What every request keeps for the weight it adds holds for the sum in the end. -/
theorem tally_keeps {invariant : κ → σ → Prop}
    (keep : ∀ sum state request, invariant sum state →
      invariant (sum + weight state request) (machine.next state request))
    (requests : List ω) {sum : κ} {state : σ} (start : invariant sum state) :
    invariant (sum + machine.tally weight state requests) (machine.runAll state requests) := by
  induction requests generalizing sum state with
  | nil =>
    rw [tally, add_zero]
    exact start
  | cons request rest ih =>
    rw [tally, ← add_assoc]
    exact ih (keep sum state request start)

end ControlTower.Foundation.Machine
