import Mathlib.Data.List.Nodup

/-! Programs that talk to somebody else. A dialogue ends with a value, raises an
error, or asks a call and goes on with the answer; what comes between two calls
happens at once. -/

set_option autoImplicit false

namespace ControlTower.Foundation

inductive Dialogue {Call : Type} (Answer : Call → Type) (ε α : Type) where
  | done (value : α)
  | raise (error : ε)
  | ask (call : Call) (resume : Answer call → Dialogue Answer ε α)

namespace Dialogue

variable {Call : Type} {Answer : Call → Type} {ε α β σ : Type}

def bind : Dialogue Answer ε α → (α → Dialogue Answer ε β) → Dialogue Answer ε β
  | .done value, next => next value
  | .raise error, _ => .raise error
  | .ask call resume, next => .ask call fun answer => (resume answer).bind next

instance : Monad (Dialogue Answer ε) where
  pure := .done
  bind := Dialogue.bind

@[simp] theorem done_bind (value : α) (next : α → Dialogue Answer ε β) :
    (Dialogue.done value : Dialogue Answer ε α) >>= next = next value := rfl

@[simp] theorem raise_bind (error : ε) (next : α → Dialogue Answer ε β) :
    (Dialogue.raise error : Dialogue Answer ε α) >>= next = .raise error := rfl

@[simp] theorem ask_bind (call : Call) (resume : Answer call → Dialogue Answer ε α) (next : α → Dialogue Answer ε β) :
    Dialogue.ask call resume >>= next = .ask call fun answer => resume answer >>= next := rfl

@[simp] theorem pure_bind (value : α) (next : α → Dialogue Answer ε β) :
    (pure value : Dialogue Answer ε α) >>= next = next value := rfl

/-- Go on with a handler after an error. -/
def rescue : Dialogue Answer ε α → (ε → Dialogue Answer ε α) → Dialogue Answer ε α
  | .done value, _ => .done value
  | .raise error, handler => handler error
  | .ask call resume, handler => .ask call fun answer => (resume answer).rescue handler

/-- A dialogue that has come to its end. -/
def outcome : Dialogue Answer ε α → Option (Except ε α)
  | .done value => some (.ok value)
  | .raise error => some (.error error)
  | .ask _ _ => none

/-- Answer the calls whose answer is known, up to the first one that has to wait. -/
def advance (known : (call : Call) → Option (Answer call)) : Dialogue Answer ε α → Dialogue Answer ε α
  | .done value => .done value
  | .raise error => .raise error
  | .ask call resume =>
      match known call with
      | some answer => (resume answer).advance known
      | none => .ask call resume

/-- Take the answer to the call that a dialogue waits for, where there is one. -/
def answered (reply : (call : Call) → Option (Answer call)) : Dialogue Answer ε α → Dialogue Answer ε α
  | .ask call resume =>
      match reply call with
      | some answer => resume answer
      | none => .ask call resume
  | ended => ended

/-- Talk to a partner that has a state, to the end. -/
def converse (partner : σ → (call : Call) → Answer call × σ) : Dialogue Answer ε α → σ → Except ε α × σ
  | .done value, state => (.ok value, state)
  | .raise error, state => (.error error, state)
  | .ask call resume, state =>
      let (answer, after) := partner state call
      (resume answer).converse partner after

/-- Every call that may come up is of a kind. -/
def Asks (kind : Call → Prop) : Dialogue Answer ε α → Prop
  | .done _ | .raise _ => True
  | .ask call resume => kind call ∧ ∀ answer, (resume answer).Asks kind

theorem Asks.bind {kind : Call → Prop} {first : Dialogue Answer ε α} {next : α → Dialogue Answer ε β}
    (start : first.Asks kind) (rest : ∀ value, (next value).Asks kind) : (first >>= next).Asks kind := by
  induction first with
  | done value => exact rest value
  | raise error => exact trivial
  | ask call resume ih => exact ⟨start.1, fun answer => ih answer (start.2 answer)⟩

/-- The conversations of a dialogue with a partner that has a state. -/
inductive Converses (replies : σ → (call : Call) → Answer call → σ → Prop) :
    Dialogue Answer ε α → σ → Except ε α → σ → Prop where
  | done (value : α) (state : σ) : Converses replies (.done value) state (.ok value) state
  | raise (error : ε) (state : σ) : Converses replies (.raise error) state (.error error) state
  | ask {call : Call} {resume : Answer call → Dialogue Answer ε α} {answer : Answer call} {state middle last : σ}
      {result : Except ε α} : replies state call answer middle → Converses replies (resume answer) middle result last →
      Converses replies (.ask call resume) state result last

section Conversations

variable {replies : σ → (call : Call) → Answer call → σ → Prop} {state last : σ}

/-- A conversation splits at a bind, or it ends with an error before. -/
theorem Converses.splits {first : Dialogue Answer ε α} {next : α → Dialogue Answer ε β} {result : Except ε β}
    (converses : Converses replies (first >>= next) state result last) :
    (∃ between middle, Converses replies first state (.ok between) middle ∧
      Converses replies (next between) middle result last) ∨
    ∃ error, result = .error error ∧ Converses replies first state (.error error) last := by
  induction first generalizing state with
  | done between => exact .inl ⟨between, state, .done between state, converses⟩
  | raise error =>
    cases converses with
    | raise => exact .inr ⟨error, rfl, .raise error _⟩
  | ask call resume ih =>
    cases converses with
    | ask reply rest =>
      rcases ih _ rest with ⟨between, middle, start, more⟩ | ⟨error, same, start⟩
      · exact .inl ⟨between, middle, .ask reply start, more⟩
      · exact .inr ⟨error, same, .ask reply start⟩

/-- A conversation that ends well splits at a bind. -/
theorem Converses.of_bind {first : Dialogue Answer ε α} {next : α → Dialogue Answer ε β} {value : β}
    (converses : Converses replies (first >>= next) state (.ok value) last) :
    ∃ between middle, Converses replies first state (.ok between) middle ∧
      Converses replies (next between) middle (.ok value) last := by
  rcases converses.splits with splits | ⟨error, impossible, -⟩
  · exact splits
  · cases impossible

/-- A conversation with a handler ends in the body or goes on in the handler. -/
theorem Converses.of_rescue {body : Dialogue Answer ε α} {handler : ε → Dialogue Answer ε α} {result : Except ε α}
    (converses : Converses replies (body.rescue handler) state result last) :
    (∃ value, result = .ok value ∧ Converses replies body state (.ok value) last) ∨
    ∃ error middle, Converses replies body state (.error error) middle ∧
      Converses replies (handler error) middle result last := by
  induction body generalizing state with
  | done value =>
    cases converses with
    | done => exact .inl ⟨value, rfl, .done value _⟩
  | raise error => exact .inr ⟨error, state, .raise error state, converses⟩
  | ask call resume ih =>
    cases converses with
    | ask reply rest =>
      rcases ih _ rest with ⟨value, same, start⟩ | ⟨error, middle, start, more⟩
      · exact .inl ⟨value, same, .ask reply start⟩
      · exact .inr ⟨error, middle, .ask reply start, more⟩

/-- The conversation with a partner that is a function. -/
theorem converses_converse {partner : σ → (call : Call) → Answer call × σ}
    (answers : ∀ state call, replies state call (partner state call).1 (partner state call).2)
    (program : Dialogue Answer ε α) (state : σ) :
    Converses replies program state (program.converse partner state).1 (program.converse partner state).2 := by
  induction program generalizing state with
  | done value => exact .done value state
  | raise error => exact .raise error state
  | ask call resume ih => exact .ask (answers state call) (ih _ _)

/-- Conversations of two parts, one after the other. -/
theorem Converses.bind {first : Dialogue Answer ε α} {next : α → Dialogue Answer ε β} {value : α} {middle : σ}
    {result : Except ε β} (start : Converses replies first state (.ok value) middle)
    (rest : Converses replies (next value) middle result last) : Converses replies (first >>= next) state result last := by
  generalize same : (Except.ok value : Except ε α) = outcome at start
  induction start with
  | done other state =>
    cases same
    exact rest
  | raise error state => cases same
  | ask reply _ ih => exact .ask reply (ih rest same)

theorem Converses.of_ask {call : Call} {resume : Answer call → Dialogue Answer ε α} {result : Except ε α}
    (converses : Converses replies (.ask call resume) state result last) :
    ∃ answer middle, replies state call answer middle ∧ Converses replies (resume answer) middle result last := by
  cases converses with
  | ask reply rest => exact ⟨_, _, reply, rest⟩

theorem Converses.of_done {value : α} {result : Except ε α}
    (converses : Converses replies (.done value : Dialogue Answer ε α) state result last) :
    result = .ok value ∧ last = state := by
  cases converses with
  | done => exact ⟨rfl, rfl⟩

theorem Converses.of_raise {error : ε} {result : Except ε α}
    (converses : Converses replies (.raise error : Dialogue Answer ε α) state result last) :
    result = .error error ∧ last = state := by
  cases converses with
  | raise => exact ⟨rfl, rfl⟩

end Conversations

end Dialogue

section UnderWay

/-- What is left of a list without repetition differs from the item that is taken out. -/
theorem ne_of_mem_eraseIdx {ι κ : Type} {key : ι → κ} {items : List ι} (distinct : (items.map key).Nodup) {index : Nat}
    {item other : ι} (here : items[index]? = some item) (left : other ∈ items.eraseIdx index) : key other ≠ key item := by
  obtain ⟨place, elsewhere, there⟩ := List.mem_eraseIdx_iff_getElem?.mp left
  intro same
  have first : (items.map key)[place]? = some (key item) := by rw [List.getElem?_map, there, Option.map_some, same]
  have second : (items.map key)[index]? = some (key item) := by rw [List.getElem?_map, here, Option.map_some]
  obtain ⟨inside, firstItem⟩ := List.getElem?_eq_some_iff.mp first
  obtain ⟨within, secondItem⟩ := List.getElem?_eq_some_iff.mp second
  exact elsewhere (distinct.getElem_inj_iff.mp (firstItem.trans secondItem.symm))

/-- Replacing an item by one with the same key leaves the keys. -/
theorem map_set_same {ι κ : Type} {key : ι → κ} {items : List ι} {index : Nat} {item other : ι}
    (here : items[index]? = some item) (same : key other = key item) : (items.set index other).map key = items.map key := by
  apply List.ext_getElem?
  intro place
  rw [List.getElem?_map, List.getElem?_map, List.getElem?_set]
  by_cases at_ : index = place
  · subst at_
    obtain ⟨inside, found⟩ := List.getElem?_eq_some_iff.mp here
    simp [found, inside, same]
  · rw [if_neg at_]

end UnderWay

end ControlTower.Foundation
