import Mathlib.Order.Defs.PartialOrder

/-! Procedures that change a state and may raise. A raised error does not undo
the changes made before it, so the final state is part of every outcome. -/

set_option autoImplicit false

namespace ControlTower.Foundation

variable {σ τ ε α β ι : Type}

structure Procedure (σ ε α : Type) where
  run : σ → Except ε α × σ

namespace Procedure

def andThen (first : Procedure σ ε α) (next : α → Procedure σ ε β) : Procedure σ ε β where
  run state := match first.run state with
    | (.ok value, after) => (next value).run after
    | (.error error, after) => (.error error, after)

instance : Monad (Procedure σ ε) where
  pure value := ⟨fun state => (.ok value, state)⟩
  bind := andThen

def raise (error : ε) : Procedure σ ε α := ⟨fun state => (.error error, state)⟩

def state : Procedure σ ε σ := ⟨fun state => (.ok state, state)⟩

def modify (change : σ → σ) : Procedure σ ε Unit := ⟨fun state => (.ok (), change state)⟩

/-- Compute a value from the state and store a new state in one step. -/
def update (change : σ → α × σ) : Procedure σ ε α :=
  ⟨fun state => (.ok (change state).1, (change state).2)⟩

/-- Run the handler where the body stopped. -/
def rescue (body : Procedure σ ε α) (handler : ε → Procedure σ ε α) : Procedure σ ε α where
  run state := match body.run state with
    | (.ok value, after) => (.ok value, after)
    | (.error error, after) => (handler error).run after

/-- Raise another error in the place of an error. -/
def relabel (body : Procedure σ ε α) (rename : ε → ε) : Procedure σ ε α :=
  body.rescue fun error => raise (rename error)

/-- Go on only where the condition holds. -/
def demand (condition : Prop) [Decidable condition] (error : ε) : Procedure σ ε Unit :=
  if condition then pure () else raise error

/-- Carry out the body only where the condition holds. -/
def onlyIf (condition : Prop) [Decidable condition] (body : Procedure σ ε Unit) : Procedure σ ε Unit :=
  if condition then body else pure ()

def found (value : Option α) (error : ε) : Procedure σ ε α :=
  match value with
  | some value => pure value
  | none => raise error

def each (action : ι → Procedure σ ε Unit) : List ι → Procedure σ ε Unit
  | [] => pure ()
  | item :: rest => do
      action item
      each action rest

/-- Run a procedure on the part of the state that a lens selects. -/
def within (view : σ → τ) (put : τ → σ → σ) (body : Procedure τ ε α) : Procedure σ ε α where
  run state :=
    let outcome := body.run (view state)
    (outcome.1, put outcome.2 state)

section Run

@[simp] theorem run_pure (value : α) (state : σ) :
    (pure value : Procedure σ ε α).run state = (.ok value, state) := rfl

theorem run_bind (first : Procedure σ ε α) (next : α → Procedure σ ε β) (state : σ) :
    (first >>= next).run state = match first.run state with
      | (.ok value, after) => (next value).run after
      | (.error error, after) => (.error error, after) := rfl

@[simp] theorem run_raise (error : ε) (state : σ) :
    (raise error : Procedure σ ε α).run state = (.error error, state) := rfl

@[simp] theorem run_state (state : σ) :
    (Procedure.state : Procedure σ ε σ).run state = (.ok state, state) := rfl

@[simp] theorem run_modify (change : σ → σ) (state : σ) :
    (modify change : Procedure σ ε Unit).run state = (.ok (), change state) := rfl

@[simp] theorem run_update (change : σ → α × σ) (state : σ) :
    (update change : Procedure σ ε α).run state = (.ok (change state).1, (change state).2) := rfl

theorem run_within (view : σ → τ) (put : τ → σ → σ) (body : Procedure τ ε α) (state : σ) :
    (within view put body).run state = ((body.run (view state)).1, put (body.run (view state)).2 state) := rfl

theorem onlyIf_false {condition : Prop} [Decidable condition] {body : Procedure σ ε Unit} (fails : ¬ condition) :
    onlyIf condition body = pure () := if_neg fails

end Run

section Ends

/-- The outcome and the final state of one execution satisfy a condition. -/
def Ends (body : Procedure σ ε α) (state : σ) (post : Except ε α → σ → Prop) : Prop :=
  post (body.run state).1 (body.run state).2

variable {post : Except ε α → σ → Prop}

@[simp] theorem ends_pure (value : α) (state : σ) :
    (pure value : Procedure σ ε α).Ends state post ↔ post (.ok value) state := Iff.rfl

@[simp] theorem ends_raise (error : ε) (state : σ) :
    (raise error : Procedure σ ε α).Ends state post ↔ post (.error error) state := Iff.rfl

@[simp] theorem ends_state {post : Except ε σ → σ → Prop} (state : σ) :
    (Procedure.state : Procedure σ ε σ).Ends state post ↔ post (.ok state) state := Iff.rfl

@[simp] theorem ends_modify {post : Except ε Unit → σ → Prop} (change : σ → σ) (state : σ) :
    (modify change : Procedure σ ε Unit).Ends state post ↔ post (.ok ()) (change state) := Iff.rfl

@[simp] theorem ends_update (change : σ → α × σ) (state : σ) :
    (update change : Procedure σ ε α).Ends state post ↔
      post (.ok (change state).1) (change state).2 := Iff.rfl

/-- The condition a first part has to meet so that the rest meets `post`. -/
def Continue (next : α → Procedure σ ε β) (post : Except ε β → σ → Prop) :
    Except ε α → σ → Prop
  | .ok value, after => (next value).Ends after post
  | .error error, after => post (.error error) after

@[simp] theorem continue_ok (next : α → Procedure σ ε β) (post : Except ε β → σ → Prop)
    (value : α) (after : σ) :
    Continue next post (.ok value) after ↔ (next value).Ends after post := Iff.rfl

@[simp] theorem continue_error (next : α → Procedure σ ε β) (post : Except ε β → σ → Prop)
    (error : ε) (after : σ) : Continue next post (.error error) after ↔ post (.error error) after := Iff.rfl

@[simp] theorem ends_bind {post : Except ε β → σ → Prop} (first : Procedure σ ε α)
    (next : α → Procedure σ ε β) (state : σ) :
    (first >>= next).Ends state post ↔ first.Ends state (Continue next post) := by
  simp only [Ends, run_bind]
  rcases first.run state with ⟨_ | _, after⟩ <;> rfl

theorem ends_assoc {post : Except ε ι → σ → Prop} {first : Procedure σ ε α} {second : α → Procedure σ ε β}
    {next : β → Procedure σ ε ι} {state : σ} :
    (first >>= fun value => second value >>= next).Ends state post ↔ ((first >>= second) >>= next).Ends state post := by
  simp only [Ends, run_bind]
  rcases first.run state with ⟨_ | _, after⟩ <;> rfl

theorem Ends.mono {body : Procedure σ ε α} {state : σ} {weak strong : Except ε α → σ → Prop}
    (ends : body.Ends state strong) (weaken : ∀ outcome after, strong outcome after → weak outcome after) :
    body.Ends state weak :=
  weaken _ _ ends

/-- What holds where a procedure ends holds of the result it is seen to have. -/
theorem Ends.of_run {body : Procedure σ ε α} {state after : σ} {outcome : Except ε α} {post : Except ε α → σ → Prop}
    (ends : body.Ends state post) (ran : body.run state = (outcome, after)) : post outcome after := by
  unfold Ends at ends
  rw [ran] at ends
  exact ends

theorem Ends.and {body : Procedure σ ε α} {state : σ} {left right : Except ε α → σ → Prop}
    (ends : body.Ends state left) (also : body.Ends state right) :
    body.Ends state fun outcome after => left outcome after ∧ right outcome after :=
  ⟨ends, also⟩

/-- Split a sequence at its first part. -/
theorem Ends.bind {post : Except ε β → σ → Prop} {first : Procedure σ ε α}
    {next : α → Procedure σ ε β} {state : σ} {middle : Except ε α → σ → Prop}
    (start : first.Ends state middle)
    (done : ∀ value after, middle (.ok value) after → (next value).Ends after post)
    (raised : ∀ error after, middle (.error error) after → post (.error error) after) :
    (first >>= next).Ends state post := by
  rw [ends_bind]
  refine start.mono fun outcome after holds => ?_
  cases outcome with
  | ok value => exact done value after holds
  | error error => exact raised error after holds

/-- An answer that is dropped. -/
theorem Ends.dropped {body : Procedure σ ε α} {state : σ} {property : σ → Prop} (value : β)
    (ends : body.Ends state fun _ after => property after) :
    (body >>= fun _ => pure value).Ends state fun _ after => property after :=
  Ends.bind ends (fun _ _ holds => holds) fun _ _ holds => holds

/-- A loop that keeps an invariant, ends the work on each item, and does not undo
the work on another one. -/
theorem Ends.each {action : ι → Procedure σ ε Unit} {post : Except ε Unit → σ → Prop}
    (invariant : σ → Prop) (done : ι → σ → Prop) (items : List ι) {state : σ} (start : invariant state)
    (one : ∀ item ∈ items, ∀ state, invariant state → (action item).Ends state fun outcome after =>
      (∀ error, outcome = .error error → post (.error error) after) ∧
        (outcome = .ok () → invariant after ∧ done item after ∧ ∀ other, done other state → done other after))
    (finish : ∀ last, invariant last → (∀ item ∈ items, done item last) →
      (∀ item, done item state → done item last) → post (.ok ()) last) :
    (Procedure.each action items).Ends state post := by
  induction items generalizing state with
  | nil => exact finish state start (by simp) fun _ => id
  | cons item rest ih =>
    refine Ends.bind (one item List.mem_cons_self state start) (fun value after ends => ?_)
      fun error after ends => ends.1 error rfl
    obtain ⟨kept, reached, retained⟩ := ends.2 rfl
    refine ih kept (fun other member => one other (List.mem_cons_of_mem _ member)) fun last final all keep => ?_
    refine finish last final (fun other member => ?_) fun other already => keep other (retained other already)
    rcases List.mem_cons.mp member with rfl | later
    · exact keep other reached
    · exact all other later

theorem ends_rescue {body : Procedure σ ε α} {handler : ε → Procedure σ ε α} {state : σ} :
    (rescue body handler).Ends state post ↔
      body.Ends state fun outcome after => match outcome with
        | .ok value => post (.ok value) after
        | .error error => (handler error).Ends after post := by
  simp only [Ends, rescue]
  rcases body.run state with ⟨_ | _, after⟩ <;> rfl

theorem ends_relabel {body : Procedure σ ε α} {rename : ε → ε} {state : σ} :
    (body.relabel rename).Ends state post ↔
      body.Ends state fun outcome after => post (outcome.mapError rename) after := by
  simp only [Ends, relabel, rescue, run_raise]
  rcases body.run state with ⟨_ | _, after⟩ <;> rfl

theorem ends_within {view : σ → τ} {put : τ → σ → σ} {body : Procedure τ ε α} {state : σ} :
    (within view put body).Ends state post ↔
      body.Ends (view state) fun outcome after => post outcome (put after state) := Iff.rfl

@[simp] theorem ends_ite {choice : Prop} [Decidable choice] (yes no : Procedure σ ε α) (state : σ) :
    (if choice then yes else no).Ends state post ↔
      (choice → yes.Ends state post) ∧ (¬ choice → no.Ends state post) := by
  split <;> simp_all

@[simp] theorem ends_demand {condition : Prop} [Decidable condition] {error : ε} {state : σ}
    {post : Except ε Unit → σ → Prop} :
    (demand condition error : Procedure σ ε Unit).Ends state post ↔
      (condition → post (.ok ()) state) ∧ (¬ condition → post (.error error) state) := by
  simp [demand]

@[simp] theorem ends_onlyIf {condition : Prop} [Decidable condition] {body : Procedure σ ε Unit} {state : σ}
    {post : Except ε Unit → σ → Prop} :
    (onlyIf condition body).Ends state post ↔
      (condition → body.Ends state post) ∧ (¬ condition → post (.ok ()) state) := by
  simp [onlyIf]

theorem ends_found {value : Option α} {error : ε} {state : σ} :
    (found value error : Procedure σ ε α).Ends state post ↔
      (∀ present, value = some present → post (.ok present) state) ∧
        (value = none → post (.error error) state) := by
  cases value <;> simp [found]

@[simp] theorem ends_found_some {present : α} {error : ε} {state : σ} :
    (found (some present) error : Procedure σ ε α).Ends state post ↔ post (.ok present) state := by
  simp [found]

/-- Past a demand, when a refusal is fine. -/
theorem ends_guard {condition : Prop} [Decidable condition] {error : ε} {next : Unit → Procedure σ ε α} {state : σ}
    (refused : post (.error error) state) (passes : condition → (next ()).Ends state post) :
    (demand condition error >>= next).Ends state post := by
  rw [ends_bind, ends_demand]
  exact ⟨passes, fun _ => refused⟩

/-- Past a demand, when a refusal is fine because the condition fails. -/
theorem ends_gate {condition : Prop} [Decidable condition] {error : ε} {next : Unit → Procedure σ ε α} {state : σ}
    (refused : ¬ condition → post (.error error) state) (passes : condition → (next ()).Ends state post) :
    (demand condition error >>= next).Ends state post := by
  rw [ends_bind, ends_demand]
  exact ⟨passes, refused⟩

/-- Past a search, when a failure is fine. -/
theorem ends_lookup {value : Option β} {error : ε} {next : β → Procedure σ ε α} {state : σ}
    (refused : post (.error error) state) (passes : ∀ present, value = some present → (next present).Ends state post) :
    (found value error >>= next).Ends state post := by
  rw [ends_bind, ends_found]
  exact ⟨passes, fun _ => refused⟩

/-- Reading the state hands it on. -/
theorem ends_read {next : σ → Procedure σ ε α} {state : σ} (passes : (next state).Ends state post) :
    (Procedure.state >>= next).Ends state post := passes

end Ends

section Projection

variable {view : σ → τ} {δ γ φ : Type}

/-- A shadow procedure does to the view of a state what the procedure does to
the state, and stops exactly when the procedure stops. -/
def ProjectsAt (view : σ → τ) (body : Procedure σ ε α) (shadow : Procedure τ δ γ) (state : σ) : Prop :=
  match body.run state, shadow.run (view state) with
  | (.ok _, after), (.ok _, seen) => seen = view after
  | (.error _, after), (.error _, seen) => seen = view after
  | _, _ => False

theorem projects_pure (value : α) (other : γ) (state : σ) :
    ProjectsAt view (pure value : Procedure σ ε α) (pure other : Procedure τ δ γ) state := rfl

theorem projects_raise (error : ε) (other : δ) (state : σ) :
    ProjectsAt view (raise error : Procedure σ ε α) (raise other : Procedure τ δ γ) state := rfl

theorem projects_modify {change : σ → σ} {shadow : τ → τ} {state : σ}
    (same : shadow (view state) = view (change state)) :
    ProjectsAt view (modify change : Procedure σ ε Unit) (modify shadow : Procedure τ δ Unit) state := same

theorem projects_demand {condition seen : Prop} [Decidable condition] [Decidable seen] {error : ε} {other : δ}
    {state : σ} (same : seen ↔ condition) :
    ProjectsAt view (demand condition error : Procedure σ ε Unit) (demand seen other : Procedure τ δ Unit)
      state := by
  by_cases holds : condition
  · simp [ProjectsAt, demand, same, holds]
  · simp [ProjectsAt, demand, same, holds]

theorem projects_bind {first : Procedure σ ε α} {next : α → Procedure σ ε β}
    {shadow : Procedure τ δ γ} {after : γ → Procedure τ δ φ} {state : σ}
    (start : ProjectsAt view first shadow state)
    (rest : ∀ value other middle, first.run state = (.ok value, middle) →
      ProjectsAt view (next value) (after other) middle) :
    ProjectsAt view (first >>= next) (shadow >>= after) state := by
  simp only [ProjectsAt, run_bind] at start ⊢
  rcases outcome : first.run state with ⟨_ | value, middle⟩ <;>
    rcases seen : shadow.run (view state) with ⟨_ | other, place⟩ <;>
    simp only [outcome, seen] at start ⊢
  · exact start
  · subst start
    exact rest value other middle outcome

/-- Reading the state is reading the view. -/
theorem projects_read {next : σ → Procedure σ ε α} {after : τ → Procedure τ δ γ} {state : σ}
    (rest : ProjectsAt view (next state) (after (view state)) state) :
    ProjectsAt view (Procedure.state >>= next) (Procedure.state >>= after) state := rest

/-- A step that the view does not see. -/
theorem projects_silent {change : σ → β × σ} {next : β → Procedure σ ε α} {shadow : Procedure τ δ γ}
    {state : σ} (unseen : view (change state).2 = view state)
    (rest : ProjectsAt view (next (change state).1) shadow (change state).2) :
    ProjectsAt view (update change >>= next) shadow state := by
  simp only [ProjectsAt, run_bind, run_update, unseen] at rest ⊢
  exact rest

theorem projects_modify_silent {change : σ → σ} {next : Unit → Procedure σ ε α} {shadow : Procedure τ δ γ}
    {state : σ} (unseen : view (change state) = view state)
    (rest : ProjectsAt view (next ()) shadow (change state)) :
    ProjectsAt view (modify change >>= next) shadow state := by
  simp only [ProjectsAt, run_bind, run_modify, unseen] at rest ⊢
  exact rest

/-- A first part that ends well and that the view does not see. -/
theorem projects_skip {first : Procedure σ ε α} {next : α → Procedure σ ε β} {shadow : Procedure τ δ γ}
    {state after : σ} {value : α} (ran : first.run state = (.ok value, after)) (unseen : view after = view state)
    (rest : ProjectsAt view (next value) shadow after) : ProjectsAt view (first >>= next) shadow state := by
  simp only [ProjectsAt, run_bind, ran, unseen] at rest ⊢
  exact rest

/-- A last step that the view does not see. -/
theorem projects_then_modify {first : Procedure σ ε Unit} {change : σ → σ} {shadow : Procedure τ δ γ} {state : σ}
    (start : ProjectsAt view first shadow state) (unseen : ∀ state, view (change state) = view state) :
    ProjectsAt view (first >>= fun _ => modify change) shadow state := by
  simp only [ProjectsAt, run_bind] at start ⊢
  rcases outcome : first.run state with ⟨_ | _, middle⟩ <;>
    rcases seen : shadow.run (view state) with ⟨_ | _, place⟩ <;>
    simp only [outcome, seen, run_modify] at start ⊢
  · exact start
  · exact start.trans (unseen middle).symm

theorem projects_ite {condition seen : Prop} [Decidable condition] [Decidable seen]
    {yes no : Procedure σ ε α} {yesShadow noShadow : Procedure τ δ γ} {state : σ} (same : seen ↔ condition)
    (whenYes : condition → ProjectsAt view yes yesShadow state)
    (whenNo : ¬ condition → ProjectsAt view no noShadow state) :
    ProjectsAt view (if condition then yes else no) (if seen then yesShadow else noShadow) state := by
  by_cases holds : condition
  · simpa [holds, same] using whenYes holds
  · simpa [holds, same] using whenNo holds

theorem projects_onlyIf {condition seen : Prop} [Decidable condition] [Decidable seen]
    {body : Procedure σ ε Unit} {shadow : Procedure τ δ Unit} {state : σ} (same : seen ↔ condition)
    (whenHolds : condition → ProjectsAt view body shadow state) :
    ProjectsAt view (onlyIf condition body) (onlyIf seen shadow) state :=
  projects_ite same whenHolds fun _ => projects_pure _ _ _

/-- Read a projection off the outcome of the procedure. -/
theorem ProjectsAt.ends {body : Procedure σ ε α} {shadow : Procedure τ δ γ} {state : σ}
    (projects : ProjectsAt view body shadow state) :
    body.Ends state fun outcome after =>
      view after = (shadow.run (view state)).2 ∧
        (outcome.isOk = (shadow.run (view state)).1.isOk) := by
  simp only [ProjectsAt, Ends] at projects ⊢
  rcases outcome : body.run state with ⟨_ | _, middle⟩ <;>
    rcases seen : shadow.run (view state) with ⟨_ | _, place⟩ <;>
    simp only [outcome, seen] at projects ⊢
  · exact ⟨projects.symm, rfl⟩
  · exact ⟨projects.symm, rfl⟩

end Projection

section Guarantees

/-- Whatever the outcome, the final state is related to the first one. -/
def Guarantees (relation : σ → σ → Prop) (body : Procedure σ ε α) : Prop :=
  ∀ state, relation state (body.run state).2

variable {relation : σ → σ → Prop}

theorem Guarantees.ends {body : Procedure σ ε α} (holds : Guarantees relation body) (state : σ) :
    body.Ends state fun _ after => relation state after :=
  holds state

theorem guarantees_pure (reflexive : ∀ state, relation state state) (value : α) :
    Guarantees relation (pure value : Procedure σ ε α) :=
  fun state => reflexive state

theorem guarantees_raise (reflexive : ∀ state, relation state state) (error : ε) :
    Guarantees relation (raise error : Procedure σ ε α) :=
  fun state => reflexive state

theorem guarantees_state (reflexive : ∀ state, relation state state) :
    Guarantees relation (Procedure.state : Procedure σ ε σ) :=
  fun state => reflexive state

theorem guarantees_modify {change : σ → σ} (changes : ∀ state, relation state (change state)) :
    Guarantees relation (modify change : Procedure σ ε Unit) :=
  changes

theorem guarantees_bind (transitive : ∀ a b c, relation a b → relation b c → relation a c)
    {first : Procedure σ ε α} {next : α → Procedure σ ε β}
    (start : Guarantees relation first) (rest : ∀ value, Guarantees relation (next value)) :
    Guarantees relation (first >>= next) := by
  intro state
  have before := start state
  simp only [run_bind]
  rcases outcome : first.run state with ⟨_ | value, after⟩
  · simpa [outcome] using before
  · exact transitive _ _ _ (by simpa [outcome] using before) (rest value after)

theorem guarantees_ite {choice : Prop} [Decidable choice] {yes no : Procedure σ ε α}
    (whenYes : Guarantees relation yes) (whenNo : Guarantees relation no) :
    Guarantees relation (if choice then yes else no) := by
  split
  · exact whenYes
  · exact whenNo

theorem guarantees_demand (reflexive : ∀ state, relation state state) {condition : Prop}
    [Decidable condition] (error : ε) : Guarantees relation (demand condition error) :=
  guarantees_ite (guarantees_pure reflexive ()) (guarantees_raise reflexive error)

theorem guarantees_onlyIf (reflexive : ∀ state, relation state state) {condition : Prop}
    [Decidable condition] {body : Procedure σ ε Unit} (changes : Guarantees relation body) :
    Guarantees relation (onlyIf condition body) :=
  guarantees_ite changes (guarantees_pure reflexive ())

theorem guarantees_rescue (transitive : ∀ a b c, relation a b → relation b c → relation a c)
    {body : Procedure σ ε α} {handler : ε → Procedure σ ε α} (first : Guarantees relation body)
    (handles : ∀ error, Guarantees relation (handler error)) : Guarantees relation (rescue body handler) := by
  intro state
  have before := first state
  simp only [rescue]
  rcases outcome : body.run state with ⟨error | _, after⟩
  · exact transitive _ _ _ (by simpa [outcome] using before) (handles error after)
  · simpa [outcome] using before

theorem guarantees_relabel {body : Procedure σ ε α} {rename : ε → ε} (first : Guarantees relation body) :
    Guarantees relation (body.relabel rename) := by
  intro state
  have ends : (body.relabel rename).Ends state fun _ after => relation state after :=
    ends_relabel.mpr (first.ends state)
  exact ends

theorem guarantees_found (reflexive : ∀ state, relation state state) (value : Option α) (error : ε) :
    Guarantees relation (found value error : Procedure σ ε α) := by
  cases value with
  | none => exact guarantees_raise reflexive error
  | some present => exact guarantees_pure reflexive present

theorem guarantees_each (reflexive : ∀ state, relation state state)
    (transitive : ∀ a b c, relation a b → relation b c → relation a c)
    {action : ι → Procedure σ ε Unit} (items : List ι)
    (one : ∀ item ∈ items, Guarantees relation (action item)) :
    Guarantees relation (each action items) := by
  induction items with
  | nil => exact guarantees_pure reflexive ()
  | cons item rest ih =>
    exact guarantees_bind transitive (one item List.mem_cons_self)
      fun _ => ih fun other member => one other (List.mem_cons_of_mem _ member)

end Guarantees

end Procedure

end ControlTower.Foundation
