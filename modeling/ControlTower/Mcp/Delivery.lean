import ControlTower.Mcp.Effects

/-! Delivery of approved calls under any interleaving of resolves, retries and
decisions. As long as nobody takes over a request whose child call is still
running, the child server answers success at most once. -/

set_option autoImplicit false

namespace ControlTower

open Foundation

/-- How often a child server answered success to the resolves of an approval. -/
def McpSystem.successes (system : McpSystem) (approvalRequestId : String) : Nat :=
  system.history.count (.answered approvalRequestId true)

def McpSystem.InFlight (system : McpSystem) (approvalRequestId : String) : Prop :=
  ∃ flight ∈ system.flights, flight.approvalRequestId = approvalRequestId

/-- No resolve and no retry meets a lease that is over while its child call still runs. -/
def Unhurried (runtime : Runtime) (system : McpSystem) : McpStep → Prop
  | .resolve approvalRequestId => ∀ pending, system.store.pendingForApproval approvalRequestId = some pending →
      system.store.Lapsed runtime pending → ¬ system.InFlight approvalRequestId
  | .retry pendingRequestId _ => ∀ pending, system.store.mcpPendingRequests.get? pendingRequestId = some pending →
      system.store.Lapsed runtime pending → ¬ system.InFlight pending.approvalRequestId
  | _ => True

/-- A closed request keeps its status. -/
def ClosedStay (before after : McpStore) : Prop :=
  ∀ approvalRequestId pending, before.pendingForApproval approvalRequestId = some pending →
    pending.status ∈ closedPendingStatuses →
      ∃ kept, after.pendingForApproval approvalRequestId = some kept ∧ kept.status = pending.status

theorem ClosedStay.trans {first middle last : McpStore} (start : ClosedStay first middle)
    (rest : ClosedStay middle last) : ClosedStay first last := by
  intro approvalRequestId pending found closed
  obtain ⟨between, kept, same⟩ := start approvalRequestId pending found closed
  obtain ⟨changed, left, still⟩ := rest approvalRequestId between kept (by rw [same]; exact closed)
  exact ⟨changed, left, still.trans same⟩

theorem closedStay_self (store : McpStore) : ClosedStay store store :=
  fun _ pending found _ => ⟨pending, found, rfl⟩

/-- What holds between two requests: every child call runs under its own lease,
a success closes its request, and every call went out on an approved approval. -/
structure McpSystem.Delivers (runtime : Runtime) (system : McpSystem) : Prop where
  «sound» : system.store.Sound
  apart : (system.flights.map (·.approvalRequestId)).Nodup
  leased : ∀ flight ∈ system.flights, ∃ pending,
    system.store.pendingForApproval flight.approvalRequestId = some pending ∧ pending.status = .forwarding
  once : ∀ approvalRequestId, system.successes approvalRequestId ≤ 1
  closed : ∀ approvalRequestId, system.successes approvalRequestId ≠ 0 → ∃ pending,
    system.store.pendingForApproval approvalRequestId = some pending ∧ pending.status = .forwarded
  approved : ∀ approvalRequestId approval call recipient,
    .called approvalRequestId approval call recipient ∈ system.history → approval.IsApproved runtime

section Steps

variable {runtime : Runtime} {system : McpSystem} {after : McpStore} {approvalRequestId : String}

theorem Unmoved.closedStay {store : McpStore} (unmoved : Unmoved store after) : ClosedStay store after :=
  fun other pending found _ => ⟨pending, (unmoved.pending other).trans found, rfl⟩

theorem Touches.closedStay {change : MCPPendingRequest → MCPPendingRequest → Prop} {store : McpStore}
    (touches : Touches approvalRequestId change store after)
    (stays : ∀ pending changed, store.pendingForApproval approvalRequestId = some pending →
      pending.status ∈ closedPendingStatuses → change pending changed → changed.status = pending.status) :
    ClosedStay store after := by
  intro other pending found closed
  by_cases same : other = approvalRequestId
  · subst same
    obtain ⟨changed, kept, -, change⟩ := touches.present pending found
    exact ⟨changed, kept, stays pending changed found closed change⟩
  · exact ⟨pending, (touches.others other same).trans found, rfl⟩

/-- An event that is neither an answer nor a call changes no count. -/
theorem successes_concat {event : ForwardEvent} (store : McpStore) (flights : List Flight)
    (other : event ≠ .answered approvalRequestId true) :
    ({ store, flights, history := system.history ++ [event] } : McpSystem).successes approvalRequestId =
      system.successes approvalRequestId := by
  simp [McpSystem.successes, List.count_append, other]

namespace McpSystem.Delivers

/-- The store changes where no child call runs and no request is closed. -/
theorem move (delivers : system.Delivers runtime) {change : MCPPendingRequest → MCPPendingRequest → Prop}
    (touches : Touches approvalRequestId change system.store after)
    (leased : ∀ pending changed, system.store.pendingForApproval approvalRequestId = some pending →
      change pending changed → system.InFlight approvalRequestId → changed.status = pending.status)
    (stays : ∀ pending changed, system.store.pendingForApproval approvalRequestId = some pending →
      pending.status ∈ closedPendingStatuses → change pending changed → changed.status = pending.status) :
    ({ system with store := after } : McpSystem).Delivers runtime ∧ ClosedStay system.store after := by
  have closedStay := touches.closedStay stays
  refine ⟨⟨touches.sound, delivers.apart, ?_, delivers.once, ?_, delivers.approved⟩, closedStay⟩
  · intro flight member
    obtain ⟨pending, found, forwarding⟩ := delivers.leased flight member
    by_cases same : flight.approvalRequestId = approvalRequestId
    · rw [same] at found ⊢
      obtain ⟨changed, kept, -, moved⟩ := touches.present pending found
      exact ⟨changed, kept, (leased pending changed found moved ⟨flight, member, same⟩).trans forwarding⟩
    · exact ⟨pending, (touches.others _ same).trans found, forwarding⟩
  · intro other succeeded
    obtain ⟨pending, found, status⟩ := delivers.closed other succeeded
    obtain ⟨kept, left, same⟩ := closedStay other pending found (by rw [status]; decide)
    exact ⟨kept, left, same.trans status⟩

theorem unmoved (delivers : system.Delivers runtime) (unmoved : Unmoved system.store after) :
    ({ system with store := after } : McpSystem).Delivers runtime where
  «sound» := unmoved.sound
  apart := delivers.apart
  leased flight member := by
    rw [unmoved.pending]
    exact delivers.leased flight member
  once := delivers.once
  closed other succeeded := by
    rw [unmoved.pending]
    exact delivers.closed other succeeded
  approved := delivers.approved

/-- A submission adds an event that no resolve made. -/
theorem record (delivers : system.Delivers runtime) {event : ForwardEvent}
    (answers : ∀ other success, event ≠ .answered other success)
    (calls : ∀ other approval call recipient, event = .called other approval call recipient → approval.IsApproved runtime) :
    ({ system with history := system.history ++ [event] } : McpSystem).Delivers runtime where
  «sound» := delivers.sound
  apart := delivers.apart
  leased := delivers.leased
  once other := by
    rw [successes_concat _ _ (answers other true)]
    exact delivers.once other
  closed other succeeded := by
    rw [successes_concat _ _ (answers other true)] at succeeded
    exact delivers.closed other succeeded
  approved other approval call recipient member := by
    rw [List.mem_append, List.mem_singleton] at member
    rcases member with old | new
    · exact delivers.approved other approval call recipient old
    · exact calls other approval call recipient new.symm

theorem adds (delivers : system.Delivers runtime) {call : MCPGatewayToolCall}
    (adds : Adds approvalRequestId call system.store after) :
    ({ system with store := after } : McpSystem).Delivers runtime ∧ ClosedStay system.store after := by
  have kept : ∀ other pending, system.store.pendingForApproval other = some pending →
      after.pendingForApproval other = some pending := by
    intro other pending found
    rw [adds.others other]
    · exact found
    · rintro rfl
      rw [adds.fresh] at found
      cases found
  refine ⟨⟨adds.sound, delivers.apart, ?_, delivers.once, ?_, delivers.approved⟩, ?_⟩
  · intro flight member
    obtain ⟨pending, found, forwarding⟩ := delivers.leased flight member
    exact ⟨pending, kept _ _ found, forwarding⟩
  · intro other succeeded
    obtain ⟨pending, found, forwarded⟩ := delivers.closed other succeeded
    exact ⟨pending, kept _ _ found, forwarded⟩
  · exact fun other pending found _ => ⟨pending, kept _ _ found, rfl⟩

theorem submit (delivers : system.Delivers runtime) {call : MCPGatewayToolCall}
    {outcome : Except Raised SubmitOutcome × McpStore} (submits : Submits call system.store outcome.1 outcome.2) :
    (system.submitted outcome).Delivers runtime ∧ ClosedStay system.store (system.submitted outcome).store := by
  unfold McpSystem.submitted
  rcases outcome with ⟨error | ⟨sent⟩ | ⟨heldId, sent, decision⟩, after⟩
  · have kept : Unmoved system.store after := submits
    exact ⟨delivers.unmoved kept, kept.closedStay⟩
  · obtain ⟨rfl, -, kept⟩ := submits
    exact ⟨(delivers.unmoved kept).record (by simp) (by simp), kept.closedStay⟩
  · obtain ⟨rfl, -, added⟩ := submits
    obtain ⟨kept, stay⟩ := delivers.adds added
    exact ⟨kept.record (by simp) (by simp), stay⟩

/-- A request in flight is neither waiting nor taken over. -/
theorem not_ready (delivers : system.Delivers runtime) {pending : MCPPendingRequest}
    (found : system.store.pendingForApproval approvalRequestId = some pending) (inFlight : system.InFlight approvalRequestId)
    (unhurried : system.store.Lapsed runtime pending → ¬ system.InFlight approvalRequestId) :
    ¬ system.store.Ready runtime pending := by
  obtain ⟨flight, member, rfl⟩ := id inFlight
  obtain ⟨other, stored, forwarding⟩ := delivers.leased flight member
  rw [found] at stored
  cases stored
  rintro (waiting | lapsed)
  · rw [forwarding] at waiting
    cases waiting
  · exact unhurried lapsed inFlight

theorem ready_open {pending : MCPPendingRequest} (ready : system.store.Ready runtime pending) :
    pending.status ∉ closedPendingStatuses := by
  rcases ready with waiting | lapsed
  · rw [waiting]
    decide
  · rw [lapsed.1]
    decide

theorem resolve (delivers : system.Delivers runtime)
    (unhurried : ∀ pending, system.store.pendingForApproval approvalRequestId = some pending →
      system.store.Lapsed runtime pending → ¬ system.InFlight approvalRequestId)
    {outcome : Except Raised ResolveOutcome × McpStore}
    (resolves : Resolves runtime approvalRequestId system.store outcome.1 outcome.2) :
    (system.resolved approvalRequestId outcome).Delivers runtime ∧
      ClosedStay system.store (system.resolved approvalRequestId outcome).store := by
  -- a resolve that forwards nothing at most settles a request of which no call is in flight
  have settled : Touches approvalRequestId
      (fun pending changed => changed.status = pending.status ∨ system.store.Ready runtime pending ∧ Rests pending changed)
      system.store outcome.2 → ({ system with store := outcome.2 } : McpSystem).Delivers runtime ∧
        ClosedStay system.store outcome.2 := by
    intro touches
    apply delivers.move touches
    · intro pending changed found change inFlight
      exact change.resolve_right fun ready => delivers.not_ready found inFlight (unhurried pending found) ready.1
    · intro pending changed _ closed change
      exact change.resolve_right fun ready => ready_open ready.1 closed
  unfold McpSystem.resolved
  rcases outcome with ⟨error | ⟨decision⟩ | ⟨approval, call⟩, after⟩
  · exact settled resolves
  · exact settled resolves
  · obtain ⟨approved, ⟨pending, found, ready, -⟩, forwards⟩ := resolves
    -- the request was ready, so no call of it is in flight yet
    have landed : ¬ system.InFlight approvalRequestId := fun inFlight =>
      delivers.not_ready found inFlight (unhurried pending found) ready
    have moved : ({ system with store := after } : McpSystem).Delivers runtime ∧ ClosedStay system.store after := by
      apply delivers.move forwards
      · exact fun _ _ _ _ inFlight => absurd inFlight landed
      · intro other _ stored closed _
        have twin : other = pending := Option.some.inj (stored.symm.trans found)
        subst twin
        exact absurd closed (ready_open ready)
    have recorded := moved.1.record
      (by simp : ∀ other success, ForwardEvent.called approvalRequestId approval call (after.reached call) ≠ .answered other success)
      (by rintro other _ _ _ ⟨⟩; exact approved)
    refine ⟨⟨recorded.sound, ?_, ?_, recorded.once, recorded.closed, recorded.approved⟩, moved.2⟩
    · -- the new flight is the only one of its approval
      rw [List.map_cons, List.nodup_cons]
      refine ⟨fun member => landed ?_, delivers.apart⟩
      obtain ⟨flight, inside, same⟩ := List.mem_map.mp member
      exact ⟨flight, inside, same⟩
    · intro flight member
      rcases List.mem_cons.mp member with rfl | old
      · obtain ⟨changed, kept, -, forwarding⟩ := forwards.present pending found
        exact ⟨changed, kept, forwarding⟩
      · exact recorded.leased flight old

theorem finish (delivers : system.Delivers runtime) (flight : Flight) (answer : Option Document) :
    (system.finished runtime flight answer).Delivers runtime ∧
      ClosedStay system.store (system.finished runtime flight answer).store := by
  unfold McpSystem.finished
  by_cases member : flight ∈ system.flights
  · rw [if_pos member]
    have apart : ((system.flights.erase flight).map (·.approvalRequestId)).Nodup :=
      delivers.apart.sublist ((List.erase_sublist).map _)
    cases answer with
    | none =>
      refine ⟨⟨delivers.sound, apart, ?_, delivers.once, delivers.closed, delivers.approved⟩, closedStay_self _⟩
      exact fun other inside => delivers.leased other (List.mem_of_mem_erase inside)
    | some result =>
      obtain ⟨pending, found, forwarding⟩ := delivers.leased flight member
      have touches : Touches flight.approvalRequestId (Records result) system.store
          ((recordForwardResult runtime flight.approvalRequestId result).run system.store).2 :=
        recordForwardResult_ends delivers.sound result
      -- two flights of one approval are one
      have others : ∀ other ∈ system.flights.erase flight, other.approvalRequestId ≠ flight.approvalRequestId := by
        intro other inside same
        have nodup : system.flights.Nodup := List.Nodup.of_map _ delivers.apart
        have away := (List.Nodup.mem_erase_iff nodup).mp inside
        exact away.1 (List.inj_on_of_nodup_map delivers.apart away.2 member same)
      have stays : ClosedStay system.store
          ((recordForwardResult runtime flight.approvalRequestId result).run system.store).2 := by
        apply touches.closedStay
        intro stored _ located closed _
        -- the answered request was in flight, so it was forwarding and not closed
        have twin : stored = pending := Option.some.inj (located.symm.trans found)
        subst twin
        rw [forwarding] at closed
        exact absurd closed (by decide)
      refine ⟨⟨touches.sound, apart, ?_, ?_, ?_, ?_⟩, stays⟩
      · intro other inside
        obtain ⟨item, stored, status⟩ := delivers.leased other (List.mem_of_mem_erase inside)
        exact ⟨item, (touches.others _ (others other inside)).trans stored, status⟩
      · intro other
        by_cases event : ForwardEvent.answered flight.approvalRequestId (!forwardFailed result) = .answered other true
        · -- the first success of this request: it was not closed before
          obtain ⟨same, -⟩ := ForwardEvent.answered.inj event
          have none : system.successes other = 0 := by
            by_contra succeeded
            obtain ⟨closed, stored, forwarded⟩ := delivers.closed other succeeded
            rw [← same, found] at stored
            cases stored
            rw [forwarding] at forwarded
            cases forwarded
          simp only [McpSystem.successes, event, List.count_append, List.count_singleton_self] at none ⊢
          omega
        · rw [successes_concat _ _ event]
          exact delivers.once other
      · intro other succeeded
        by_cases event : ForwardEvent.answered flight.approvalRequestId (!forwardFailed result) = .answered other true
        · obtain ⟨same, passed⟩ := ForwardEvent.answered.inj event
          have passed : ¬ forwardFailed result = true := by simpa using passed
          obtain ⟨changed, kept, -, records⟩ := touches.present pending found
          rw [Records, if_neg passed, Marks, if_neg (by rw [forwarding]; decide)] at records
          rw [← same]
          exact ⟨changed, kept, records⟩
        · rw [successes_concat _ _ event] at succeeded
          obtain ⟨closed, stored, forwarded⟩ := delivers.closed other succeeded
          obtain ⟨kept, left, same⟩ := stays other closed stored (by rw [forwarded]; decide)
          exact ⟨kept, left, same.trans forwarded⟩
      · intro other approval call recipient inside
        rw [List.mem_append, List.mem_singleton] at inside
        rcases inside with old | new
        · exact delivers.approved other approval call recipient old
        · cases new
  · rw [if_neg member]
    exact ⟨delivers, closedStay_self _⟩

theorem retry (delivers : system.Delivers runtime) {pendingRequestId : String} {payload : PendingRetryRequest}
    (unhurried : Unhurried runtime system (.retry pendingRequestId payload)) :
    (mcpNext runtime system (.retry pendingRequestId payload)).Delivers runtime ∧
      ClosedStay system.store (mcpNext runtime system (.retry pendingRequestId payload)).store := by
  rcases retryPendingGatewayRequest_ends delivers.sound pendingRequestId payload with ⟨kept, -, servers, same⟩ | retried
  · have unmoved : Unmoved system.store
        ((retryPendingGatewayRequest runtime pendingRequestId payload).run system.store).2 := ⟨kept, servers, same⟩
    exact ⟨delivers.unmoved unmoved, unmoved.closedStay⟩
  · obtain ⟨pending, stored, ready, touches⟩ := retried
    have named := delivers.sound.keyed _ _ stored
    have found : system.store.pendingForApproval pending.approvalRequestId = some pending := by
      apply delivers.sound.pending_iff.mpr
      rw [named]
      exact ⟨stored, rfl⟩
    apply delivers.move touches
    · intro other _ located _ inFlight
      have twin : other = pending := Option.some.inj (located.symm.trans found)
      subst twin
      rcases ready with ready | dead
      · exact absurd ready (delivers.not_ready found inFlight (unhurried other stored))
      · obtain ⟨flight, member, same⟩ := inFlight
        obtain ⟨item, present, forwarding⟩ := delivers.leased flight member
        rw [same, found] at present
        cases present
        rw [dead] at forwarding
        cases forwarding
    · intro other _ located closed _
      have twin : other = pending := Option.some.inj (located.symm.trans found)
      subst twin
      rcases ready with ready | dead
      · exact absurd closed (ready_open ready)
      · rw [dead] at closed
        exact absurd closed (by decide)

theorem outside (delivers : system.Delivers runtime) (change : McpOutsideChange) :
    (mcpNext runtime system (.outside change)).Delivers runtime ∧
      ClosedStay system.store (mcpNext runtime system (.outside change)).store := by
  refine ⟨⟨?_, delivers.apart, delivers.leased, delivers.once, delivers.closed, delivers.approved⟩, closedStay_self _⟩
  exact ⟨change.filed, delivers.sound.keyed, delivers.sound.single, delivers.sound.recalled⟩

end McpSystem.Delivers

/-- Every unhurried step keeps the order of deliveries and the closed requests. -/
theorem McpSystem.Delivers.step (delivers : system.Delivers runtime) (step : McpStep)
    (unhurried : Unhurried runtime system step) :
    (mcpNext runtime system step).Delivers runtime ∧ ClosedStay system.store (mcpNext runtime system step).store := by
  cases step with
  | submitRequest projectId call => exact delivers.submit (submitGatewayRequest_ends delivers.sound projectId call)
  | toolsCall projectId params =>
    have self : Unmoved system.store system.store := ⟨delivers.sound, rfl, fun _ => rfl⟩
    show (system.submitted ((handleToolsCall runtime projectId params).run system.store)).Delivers runtime ∧ _
    by_cases known : projectId ∈ system.store.projects
    · cases parsed : toolCallFromParams runtime system.store projectId params with
      | error message =>
        have stopped : (handleToolsCall runtime projectId params).run system.store =
            (.error (.valueError message), system.store) := by
          simp [handleToolsCall, Procedure.run_bind, Procedure.demand, known, parsed]
        simp only [mcpNext, stopped]
        exact ⟨delivers.unmoved self, self.closedStay⟩
      | ok call =>
        have goes : (handleToolsCall runtime projectId params).run system.store =
            (submitGatewayRequest runtime projectId call).run system.store := by
          simp [handleToolsCall, Procedure.run_bind, Procedure.demand, known, parsed]
        simp only [mcpNext, goes]
        exact delivers.submit (submitGatewayRequest_ends delivers.sound projectId call)
    · have stopped : (handleToolsCall runtime projectId params).run system.store =
          (.error (.http 404 "Project not found"), system.store) := by
        simp [handleToolsCall, Procedure.run_bind, Procedure.demand, known]
      simp only [mcpNext, stopped]
      exact ⟨delivers.unmoved self, self.closedStay⟩
  | resolve approvalRequestId => exact delivers.resolve unhurried (resolveGatewayRequest_ends delivers.sound)
  | finish flight answer => exact delivers.finish flight answer
  | retry pendingRequestId payload => exact delivers.retry unhurried
  | outside change => exact delivers.outside change

theorem McpSystem.Fresh.delivers (fresh : system.Fresh) : system.Delivers runtime where
  «sound» := fresh.sound
  apart := by simp [fresh.flights]
  leased := by simp [fresh.flights]
  once := by simp [McpSystem.successes, fresh.history]
  closed := by simp [McpSystem.successes, fresh.history]
  approved := by simp [fresh.history]

end Steps

/-- In every run in which nobody takes over a request whose child call still
runs, the child server answers success at most once for each approval, every
child call goes out on an approved approval, and closed requests stay closed. -/
theorem mcp_delivers_once (runtime : Runtime) (system : McpSystem)
    (reachable : (mcpMachine runtime).Reachable (Unhurried runtime) system) :
    (∀ approvalRequestId, system.successes approvalRequestId ≤ 1) ∧
    (∀ approvalRequestId approval call recipient,
      .called approvalRequestId approval call recipient ∈ system.history → approval.IsApproved runtime) ∧
    ∀ last, (mcpMachine runtime).Follows (Unhurried runtime) system last → ClosedStay system.store last.store := by
  have delivers : system.Delivers runtime :=
    reachable.invariant (fun _ fresh => fresh.delivers) fun system step delivers unhurried =>
      (delivers.step step unhurried).1
  refine ⟨delivers.once, delivers.approved, ?_⟩
  intro last follows
  have both : last.Delivers runtime ∧ ClosedStay system.store last.store := by
    apply follows.keeps (⟨delivers, closedStay_self _⟩ : system.Delivers runtime ∧ ClosedStay system.store system.store)
    intro middle step reached unhurried
    have next := reached.1.step step unhurried
    exact ⟨next.1, reached.2.trans next.2⟩
  exact both.2

section Sample

/-- The child server reports success. -/
def success : Option Document := some (.object [("ok", .flag true)])

def deliveredOnce : McpSystem :=
  (mcpMachine (.plain false)).runAll registeredSystem [.submitRequest "project_1" (writeCall none),
    approveCall (.plain false), .resolve heldApprovalId, .finish ⟨heldApprovalId, writeCall none⟩ success]

theorem mcp_delivers_once_sample : deliveredOnce.successes heldApprovalId = 1 ∧
    ∀ approvalRequestId, deliveredOnce.successes approvalRequestId ≤ 1 := by
  refine ⟨by decide +kernel, (mcp_delivers_once (.plain false) deliveredOnce ⟨registeredSystem, registeredSystem_fresh, ?_⟩).1⟩
  apply Machine.follows_runAll
  refine ⟨trivial, trivial, ?_, trivial, trivial⟩
  intro _ _ _ inFlight
  obtain ⟨_, member, -⟩ := inFlight
  cases member

/-- A runtime whose child servers take longer than a lease lasts. -/
def slowChildren : Runtime := { Runtime.plain false with clock := fun tick => tick * 60000000 }

/-- A second resolve takes the lease over while the first call still runs. -/
def deliveredTwice : McpSystem :=
  (mcpMachine slowChildren).runAll registeredSystem [.submitRequest "project_1" (writeCall none),
    approveCall slowChildren, .resolve heldApprovalId, .resolve heldApprovalId,
    .finish ⟨heldApprovalId, writeCall none⟩ success, .finish ⟨heldApprovalId, writeCall (some true)⟩ success]

theorem lease_expiry_delivers_twice : ¬ ∀ (runtime : Runtime) (system : McpSystem),
    (mcpMachine runtime).Reachable Machine.anything system →
      ∀ approvalRequestId, system.successes approvalRequestId ≤ 1 := by
  intro claim
  have once := claim slowChildren deliveredTwice
    ⟨registeredSystem, registeredSystem_fresh, Machine.follows_anything _ _⟩ heldApprovalId
  have twice : deliveredTwice.successes heldApprovalId = 2 := by decide +kernel
  omega

end Sample

end ControlTower
