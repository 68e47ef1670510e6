import ControlTower.Run.Governance

/-! The first picture of a new run, and the capability lease a run takes. -/

set_option autoImplicit false

namespace ControlTower

open Foundation
open Foundation.Procedure

/-- The course of a run that was just created. -/
structure Course.Initial (course : Course) : Prop where
  run : course.run = .scheduled
  unpaused : course.pauseRequested = false
  uncancelled : course.cancelRequested = false
  unleased : course.binding.capabilityLeaseId = none
  holder : course.holder = none
  behind : course.behind = []
  step : course.step = .ready
  attempts : course.attempts = 0
  budgeted : ∀ step ∈ course.focus :: course.waiting, 1 ≤ step.maxAttempts

theorem Course.Initial.steady {course : Course} (initial : course.Initial) : course.Steady := by
  refine Course.Steady.idle ?_ (by simp [initial.step]) (by simp [initial.step])
  rw [initial.run, initial.step, initial.uncancelled]
  decide

section FreshIds

variable (runtime : Runtime) (kind : String)

theorem freshIds_unused (used : List String) (count : Nat) :
    ∀ id ∈ freshIds runtime kind used count, id ∉ used := by
  induction count generalizing used with
  | zero => simp [freshIds]
  | succ count ih =>
    intro id member
    rcases List.mem_cons.mp member with rfl | later
    · exact runtime.newId_fresh kind used
    · exact fun known => ih _ id later (List.mem_cons_of_mem _ known)

theorem freshIds_distinct (used : List String) (count : Nat) : (freshIds runtime kind used count).Nodup := by
  induction count generalizing used with
  | zero => exact List.nodup_nil
  | succ count ih =>
    refine List.nodup_cons.mpr ⟨fun member => ?_, ih _⟩
    exact freshIds_unused runtime kind _ count _ member List.mem_cons_self

theorem freshIds_length (used : List String) (count : Nat) :
    (freshIds runtime kind used count).length = count := by
  induction count generalizing used with
  | zero => rfl
  | succ count ih => simp [freshIds, ih]

end FreshIds

section InitialSteps

variable (run : AgentRun)

theorem initialSteps_ids (index : Nat) (types : List AgentRunStepType) (ids : List String)
    (same : ids.length = types.length) : (initialSteps run index types ids).map (·.id) = ids := by
  induction types generalizing index ids with
  | nil =>
    obtain rfl := List.length_eq_zero_iff.mp same
    rfl
  | cons stepType types ih =>
    cases ids with
    | nil => simp at same
    | cons id ids =>
      have rest := ih (index + 1) ids (by simpa using same)
      simp [initialSteps, initialStep, rest]

theorem initialSteps_member run (index : Nat) (types : List AgentRunStepType) (ids : List String) :
    ∀ step ∈ initialSteps run index types ids, step.runId = run.id ∧ step.maxAttempts = run.maxAttemptsPerStep ∧
      index ≤ step.sequence ∧ step.attemptCount = 0 ∧ (0 < index → step.status = .pending) := by
  induction types generalizing index ids with
  | nil => simp [initialSteps]
  | cons stepType types ih =>
    cases ids with
    | nil => simp [initialSteps]
    | cons id ids =>
      intro step member
      rcases List.mem_cons.mp member with rfl | later
      · exact ⟨rfl, rfl, Nat.le_refl _, rfl, fun positive => if_neg (by omega)⟩
      · obtain ⟨owned, budget, after, untried, pending⟩ := ih (index + 1) ids step later
        exact ⟨owned, budget, by omega, untried, fun _ => pending (by omega)⟩

theorem initialSteps_ascend (index : Nat) (types : List AgentRunStepType) (ids : List String) :
    (initialSteps run index types ids).Pairwise fun earlier later => earlier.sequence < later.sequence := by
  induction types generalizing index ids with
  | nil => exact .nil
  | cons stepType types ih =>
    cases ids with
    | nil => exact .nil
    | cons id ids =>
      refine List.pairwise_cons.mpr ⟨fun step member => ?_, ih _ _⟩
      obtain ⟨-, -, after, -⟩ := initialSteps_member run (index + 1) types ids step member
      exact after

/-- A new run shows its first step in focus and the others waiting. -/
theorem initialSteps_depicts (stepType : AgentRunStepType) (types : List AgentRunStepType) (id : String)
    (ids : List String) (same : ids.length = types.length) (distinct : (id :: ids).Nodup)
    (pointed : run.currentStepId = some id) (budget : 1 ≤ run.maxAttemptsPerStep)
    (uncancelled : run.cancelRequested = false) :
    Depicts run (initialSteps run 0 (stepType :: types) (id :: ids))
      (courseOf run [] (initialStep run 0 stepType id) (initialSteps run 1 types ids)) := by
  have members := initialSteps_member run 0 (stepType :: types) (id :: ids)
  refine ⟨[], _, _, ?_, rfl⟩
  exact
    { arranged := rfl
      lineup :=
        { distinct := by
            have names := initialSteps_ids run 0 (stepType :: types) (id :: ids) (by simpa using same)
            -- the identifiers of the steps are those that were drawn
            rw [List.map_map]
            exact names.symm ▸ distinct
          ascending := List.pairwise_map.mpr (initialSteps_ascend _ _ _ _)
          owned := by
            intro step member
            obtain ⟨origin, present, rfl⟩ := List.mem_map.mp member
            exact (members origin present).1
          budgeted := by
            intro step member
            obtain ⟨origin, present, rfl⟩ := List.mem_map.mp member
            have granted := (members origin present).2.1
            simpa [AgentRunStep.identity, granted] using budget }
      done := by simp
      waits := by
        intro step member
        -- a step behind the first one is pending and untried
        obtain ⟨-, -, -, untried, pending⟩ := initialSteps_member run 1 types ids step member
        rw [uncancelled]
        exact ⟨pending Nat.one_pos, untried⟩
      pointed := pointed }

variable {run}

theorem newRun_depicts {stepIds : List String} (drawn : stepIds.length = defaultAgentRunSteps.length)
    (distinct : stepIds.Nodup) (pointed : run.currentStepId = stepIds.head?) (budget : 1 ≤ run.maxAttemptsPerStep)
    (status : run.status = .scheduled) (unpaused : run.pauseRequested = false)
    (uncancelled : run.cancelRequested = false) (unleased : run.capabilityLeaseId = none)
    (holder : run.leaseOwner = none) :
    ∃ course, Depicts run (initialSteps run 0 defaultAgentRunSteps stepIds) course ∧ course.Initial := by
  cases stepIds with
  | nil => cases drawn
  | cons id rest =>
    refine ⟨_, initialSteps_depicts run .validateScope _ id rest (Nat.succ.inj drawn) distinct pointed budget
      uncancelled, status, unpaused, uncancelled, unleased, holder, rfl, rfl, rfl, fun step member => ?_⟩
    rcases List.mem_cons.mp member with rfl | later
    · exact budget
    · obtain ⟨origin, present, rfl⟩ := List.mem_map.mp later
      have granted := (initialSteps_member run 1 _ rest origin present).2.1
      simpa [AgentRunStep.identity, granted] using budget

end InitialSteps

section Create

variable {runtime : Runtime} {store : Store} {runId : String} {course : Course}

/-- A new run stands under an identifier that no run had. -/
theorem createAgentRun_ends (payload : AgentRunCreate) :
    (createAgentRun runtime payload).Ends store fun outcome after =>
      after.agentRuns = store.agentRuns ∨ ∃ newId durable, outcome = .ok newId ∧
        store.agentRuns.get? newId = none ∧ after.agentRuns = store.agentRuns.set newId durable ∧
        durable.run.id = newId ∧ ∃ course, Depicts durable.run durable.steps course ∧ course.Initial := by
  simp only [createAgentRun, ends_bind, ends_state, continue_ok, ends_found, ends_demand, continue_error]
  refine ⟨fun task _ => ⟨fun _ => ⟨fun approval _ => ⟨fun _ => ?_, fun _ => .inl trivial⟩, fun _ => .inl trivial⟩,
    fun _ => .inl trivial⟩, fun _ => .inl trivial⟩
  split
  · exact .inl rfl
  · simp only [ends_bind, ends_drawSecret, ends_readClock, ends_modify, persist, ends_pure, continue_ok]
    refine .inr ⟨_, _, rfl, Table.get?_of_fresh (runtime.newId_fresh _ _), rfl, rfl, ?_⟩
    refine newRun_depicts ?_ ?_ rfl payload.attemptBounds.1 rfl rfl rfl rfl rfl
    · exact freshIds_length _ _ _ _
    · exact freshIds_distinct _ _ _ _

end Create

end ControlTower
