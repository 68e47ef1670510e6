import ControlTower.Foundation.Encoding
import ControlTower.Foundation.Procedure

/-! What the application takes from outside its own code: the clock, random
identifiers and tokens, the digest and signing functions, and its settings. -/

set_option autoImplicit false

namespace ControlTower

open Foundation

/-- A point in time in microseconds. -/
abbrev Instant := Nat

def Instant.plusSeconds (instant : Instant) (seconds : Nat) : Instant := instant + seconds * 1000000

structure Runtime where
  /-- The successive readings of `datetime.now`. -/
  clock : Nat → Instant
  /-- The successive results of `secrets.token_urlsafe`. -/
  secret : Nat → String
  /-- `new_id(prefix)`, given the identifiers already in use. -/
  newId : String → List String → String
  newId_fresh : ∀ kind used, newId kind used ∉ used
  /-- `sha256_hex` of the canonical JSON of a value. -/
  sha256Hex : Document → String
  /-- `sign_payload`: the HMAC of the canonical JSON of a value. -/
  signPayload : Document → String
  /-- `datetime.isoformat`. -/
  isoformat : Instant → String
  /-- `str` of a nested value or of a fraction. -/
  render : Document → String
  /-- `str.lower`. -/
  lower : String → String
  trustEnforcement : Bool

/-- A name longer than all names in use. -/
def longerName (kind : String) (used : List String) : String :=
  kind ++ "_" ++ String.ofList (List.replicate (used.map String.length).sum 'x')

theorem length_le_sum {name : String} {names : List String} (member : name ∈ names) :
    name.length ≤ (names.map String.length).sum := by
  induction names with
  | nil => cases member
  | cons first rest ih =>
    rw [List.map_cons, List.sum_cons]
    rcases List.mem_cons.mp member with rfl | later
    · exact Nat.le_add_right _ _
    · exact Nat.le_trans (ih later) (Nat.le_add_left _ _)

theorem longerName_fresh (kind : String) (used : List String) : longerName kind used ∉ used := by
  intro member
  have bound : (longerName kind used).length ≤ (used.map String.length).sum :=
    length_le_sum member
  have mark : "_".length = 1 := by decide
  simp only [longerName, String.length_append, String.length_ofList, List.length_replicate, mark] at bound
  omega

/-- A digest for runs of the model: the letters of a code as digits of a number. -/
def countingDigest (letters : List Char) : String :=
  toString (letters.foldl (fun sum char => (sum * 131 + char.toNat) % 1000000007) 7)

/-- A runtime whose clock moves on by one second for each reading. -/
def Runtime.plain (trustEnforcement : Bool) : Runtime where
  clock tick := tick * 1000000
  secret tick := "secret_" ++ toString tick
  newId := longerName
  newId_fresh := longerName_fresh
  sha256Hex document := countingDigest document.code
  signPayload document := "signed_" ++ countingDigest document.code
  isoformat instant := toString instant
  render := Document.written
  lower := id
  trustEnforcement := trustEnforcement

/-- The same runtime with digests and signatures that tell all values apart. -/
def Runtime.exact (trustEnforcement : Bool) : Runtime :=
  { Runtime.plain trustEnforcement with
    sha256Hex := fun document => String.ofList document.code
    signPayload := fun document => String.ofList document.code }

theorem ofList_code_injective (left right : Document)
    (same : String.ofList left.code = String.ofList right.code) : left = right :=
  Document.code_injective left right (String.ofList_inj.mp same)

/-- The errors of the application. A transition error is a value error for the
handlers that catch value errors. -/
inductive Raised where
  | http (statusCode : Nat) (detail : String)
  | valueError (message : String)
  | invalidAgentRunTransition (message : String)
  | validationError (field : String)
  | agentRunConflict (message : String)
  | agentRunTrustConflict (message : String)
  | runCapabilityConflict (message : String)
  | trustControlConflict (message : String)
  | actionAuthorizationConflict (message : String)
  /-- The worker process ended during the executor call. -/
  | workerCrashed
  deriving DecidableEq, Repr

/-- Whether `except ValueError` catches the error. -/
def Raised.isValueError : Raised → Bool
  | .valueError _ | .invalidAgentRunTransition _ | .validationError _ => true
  | _ => false

/-- `str(error)`. -/
def Raised.message : Raised → String
  | .http _ detail => detail
  | .valueError message | .invalidAgentRunTransition message | .agentRunConflict message
  | .agentRunTrustConflict message | .runCapabilityConflict message | .trustControlConflict message
  | .actionAuthorizationConflict message => message
  | .validationError field => field
  | .workerCrashed => ""

/-- A state that counts how often the clock or the random source was read. -/
class Clocked (σ : Type) where
  ticks : σ → Nat
  tick : σ → σ

def readClock {σ : Type} [Clocked σ] (runtime : Runtime) : Procedure σ Raised Instant :=
  .update fun state => (runtime.clock (Clocked.ticks state), Clocked.tick state)

def drawSecret {σ : Type} [Clocked σ] (runtime : Runtime) : Procedure σ Raised String :=
  .update fun state => (runtime.secret (Clocked.ticks state), Clocked.tick state)

section

variable {σ : Type}

@[simp] theorem ends_readClock [Clocked σ] {runtime : Runtime} {state : σ}
    {post : Except Raised Instant → σ → Prop} :
    (readClock runtime : Procedure σ Raised Instant).Ends state post ↔
      post (.ok (runtime.clock (Clocked.ticks state))) (Clocked.tick state) := Iff.rfl

@[simp] theorem ends_drawSecret [Clocked σ] {runtime : Runtime} {state : σ}
    {post : Except Raised String → σ → Prop} :
    (drawSecret runtime : Procedure σ Raised String).Ends state post ↔
      post (.ok (runtime.secret (Clocked.ticks state))) (Clocked.tick state) := Iff.rfl

end

end ControlTower
