import Mathlib.Data.Fintype.EquivFin
import ControlTower.Foundation.Machine
import ControlTower.Foundation.Table

/-! The lock that keeps two execution requests for one run apart. A request
fetches the lock object of its run, tries it, executes, releases it, and removes
the entry of the run when the released object is free. Any number of requests
may take these steps in any order. -/

set_option autoImplicit false

namespace ControlTower

open Foundation

/-- Where a request stands, with the lock object that it fetched. -/
inductive RequestPhase where
  | fetched (runId : String) (lock : Nat)
  | executing (runId : String) (lock : Nat)
  | released (runId : String) (lock : Nat)
  | refused
  | answered
  deriving DecidableEq, Repr

structure LockService where
  /-- `_EXECUTION_LOCKS`. -/
  executionLocks : Table String Nat
  /-- Lock objects are numbered in the order in which they are made. -/
  created : Nat
  locked : Nat → Bool
  requests : Table Nat RequestPhase

/-- The atomic steps of a request. -/
inductive LockStep where
  /-- `_EXECUTION_LOCKS.setdefault(run_id, Lock())` under the guard. -/
  | fetch (request : Nat) (runId : String)
  /-- `lock.acquire(blocking=False)`. -/
  | acquire (request : Nat)
  /-- `lock.release()`. -/
  | release (request : Nat)
  /-- The removal of the entry under the guard, unless the lock object is taken again. -/
  | remove (request : Nat)
  deriving DecidableEq, Repr

namespace LockService

def enter (service : LockService) (request : Nat) (phase : RequestPhase) : LockService :=
  { service with requests := service.requests.set request phase }

/-- The lock object of a run, made where there is none. -/
def setDefault (service : LockService) (runId : String) : Nat × LockService :=
  match service.executionLocks.get? runId with
  | some lock => (lock, service)
  | none => (service.created, { service with
      executionLocks := service.executionLocks.set runId service.created
      created := service.created + 1 })

/-- A step that the phase of the request does not admit leaves everything as it is. -/
def next (service : LockService) : LockStep → LockService
  | .fetch request runId =>
      if request ∈ service.requests.keys then service
      else
        let made := service.setDefault runId
        made.2.enter request (.fetched runId made.1)
  | .acquire request =>
      match service.requests.get? request with
      | some (.fetched runId lock) =>
          if service.locked lock then service.enter request .refused
          else LockService.enter { service with locked := Function.update service.locked lock true } request
            (.executing runId lock)
      | _ => service
  | .release request =>
      match service.requests.get? request with
      | some (.executing runId lock) =>
          LockService.enter { service with locked := Function.update service.locked lock false } request
            (.released runId lock)
      | _ => service
  | .remove request =>
      match service.requests.get? request with
      | some (.released runId lock) =>
          let locks := if service.locked lock then service.executionLocks
            else service.executionLocks.keep (· != runId)
          LockService.enter { service with executionLocks := locks } request .answered
      | _ => service

end LockService

/-- Before any request, with no lock object made. -/
def lockMachine : Machine LockService LockStep where
  initial service := service = ⟨.empty, 0, fun _ => false, .empty⟩
  next := LockService.next

namespace LockService

/-- The request is in its critical section for the run. -/
def Executing (service : LockService) (runId : String) (request : Nat) : Prop :=
  ∃ lock, service.requests.get? request = some (.executing runId lock)

/-- The request has fetched the lock object, and has not released it. -/
def Uses (service : LockService) (request : Nat) (runId : String) (lock : Nat) : Prop :=
  service.requests.get? request = some (.fetched runId lock) ∨
    service.requests.get? request = some (.executing runId lock)

/-- While no entry is removed that is in use, the object that a request uses is
the one on the map, and a taken object has exactly one owner. -/
structure Lawful (service : LockService) : Prop where
  current : ∀ request runId lock, service.Uses request runId lock → service.executionLocks.get? runId = some lock
  taken : ∀ request runId lock, service.requests.get? request = some (.executing runId lock) →
    service.locked lock = true
  sole : ∀ first second runId otherId lock, service.requests.get? first = some (.executing runId lock) →
    service.requests.get? second = some (.executing otherId lock) → first = second
  owned : ∀ lock, service.locked lock = true →
    ∃ request runId, service.requests.get? request = some (.executing runId lock)
  made : ∀ runId lock, service.executionLocks.get? runId = some lock → lock < service.created
  apart : ∀ runId otherId lock, service.executionLocks.get? runId = some lock →
    service.executionLocks.get? otherId = some lock → runId = otherId

end LockService

/-- An entry is removed only while no other request of the run has fetched a lock
object that it has not released yet. -/
def LockStep.Orderly (service : LockService) : LockStep → Prop
  | .remove request => ∀ runId lock, service.requests.get? request = some (.released runId lock) →
      service.locked lock = false → ∀ other held, ¬ service.Uses other runId held
  | _ => True

section Steps

open LockService

variable {service : LockService} {request : Nat}

@[simp] theorem enter_requests (phase : RequestPhase) (other : Nat) :
    (service.enter request phase).requests.get? other =
      if other = request then some phase else service.requests.get? other := Table.get?_set _ _ _ _

/-- A request that goes on to a phase without a lock object takes nothing from the others. -/
theorem enter_idle (lawful : service.Lawful) {phase : RequestPhase}
    (idle : ∀ runId lock, phase ≠ .fetched runId lock ∧ phase ≠ .executing runId lock)
    (free : ∀ runId lock, service.requests.get? request ≠ some (.executing runId lock)) :
    (service.enter request phase).Lawful := by
  have executes : ∀ other runId lock, (service.enter request phase).requests.get? other = some (.executing runId lock) →
      service.requests.get? other = some (.executing runId lock) := by
    intro other runId lock entered
    rw [enter_requests] at entered
    split at entered
    · exact absurd (Option.some.inj entered) (idle runId lock).2
    · exact entered
  have stays : ∀ other runId lock, service.requests.get? other = some (.executing runId lock) →
      (service.enter request phase).requests.get? other = some (.executing runId lock) := by
    intro other runId lock there
    rw [enter_requests, if_neg]
    · exact there
    · rintro rfl
      exact free runId lock there
  constructor
  · rintro other runId lock (entered | entered)
    · rw [enter_requests] at entered
      split at entered
      · exact absurd (Option.some.inj entered) (idle runId lock).1
      · exact lawful.current other runId lock (.inl entered)
    · exact lawful.current other runId lock (.inr (executes other runId lock entered))
  · exact fun other runId lock entered => lawful.taken other runId lock (executes other runId lock entered)
  · exact fun first second runId otherId lock left right =>
      lawful.sole first second runId otherId lock (executes _ _ _ left) (executes _ _ _ right)
  · intro lock locked
    obtain ⟨owner, runId, there⟩ := lawful.owned lock locked
    exact ⟨owner, runId, stays owner runId lock there⟩
  · exact lawful.made
  · exact lawful.apart

theorem setDefault_lawful (lawful : service.Lawful) (runId : String) : (service.setDefault runId).2.Lawful := by
  unfold setDefault
  split
  · exact lawful
  · rename_i absent
    constructor
    · intro other otherId lock uses
      have here := lawful.current other otherId lock uses
      rw [Table.get?_set, if_neg]
      · exact here
      · rintro rfl
        rw [absent] at here
        cases here
    · exact lawful.taken
    · exact lawful.sole
    · exact lawful.owned
    · intro otherId lock present
      rw [Table.get?_set] at present
      split at present
      · obtain rfl := Option.some.inj present
        exact Nat.lt_succ_self _
      · exact Nat.lt_succ_of_lt (lawful.made otherId lock present)
    · intro firstId secondId lock left right
      -- a new object differs from every object on the map
      rw [Table.get?_set] at left right
      split at left <;> split at right
      · simp_all
      · obtain rfl := Option.some.inj left
        exact absurd (lawful.made _ _ right) (Nat.lt_irrefl _)
      · obtain rfl := Option.some.inj right
        exact absurd (lawful.made _ _ left) (Nat.lt_irrefl _)
      · exact lawful.apart firstId secondId lock left right

theorem setDefault_current (service : LockService) (runId : String) :
    (service.setDefault runId).2.executionLocks.get? runId = some (service.setDefault runId).1 ∧
      (service.setDefault runId).2.requests = service.requests := by
  unfold setDefault
  split
  · rename_i present
    exact ⟨present, rfl⟩
  · exact ⟨Table.get?_set_self _ _ _, rfl⟩

theorem fetch_lawful (lawful : service.Lawful) (runId : String) : (service.next (.fetch request runId)).Lawful := by
  unfold LockService.next
  dsimp only
  split
  · exact lawful
  · rename_i new
    have made := setDefault_lawful lawful runId
    have current := setDefault_current service runId
    generalize service.setDefault runId = pair at made current ⊢
    -- the request is new, so it executes nothing before and after the fetch
    have absent : pair.2.requests.get? request = none := by
      rw [current.2]
      exact Table.get?_of_fresh new
    have executes : ∀ other otherId lock,
        (pair.2.enter request (.fetched runId pair.1)).requests.get? other = some (.executing otherId lock) ↔
          pair.2.requests.get? other = some (.executing otherId lock) := by
      intro other otherId lock
      rw [enter_requests]
      split
      · rename_i same
        simp [same, absent]
      · exact Iff.rfl
    constructor
    · rintro other otherId lock (entered | entered)
      · rw [enter_requests] at entered
        split at entered
        · simp only [Option.some.injEq, RequestPhase.fetched.injEq] at entered
          obtain ⟨rfl, rfl⟩ := entered
          exact current.1
        · exact made.current other otherId lock (.inl entered)
      · exact made.current other otherId lock (.inr ((executes _ _ _).mp entered))
    · exact fun other otherId lock entered => made.taken other otherId lock ((executes _ _ _).mp entered)
    · exact fun first second firstId secondId lock left right =>
        made.sole first second firstId secondId lock ((executes _ _ _).mp left) ((executes _ _ _).mp right)
    · intro lock locked
      obtain ⟨owner, ownerId, there⟩ := made.owned lock locked
      exact ⟨owner, ownerId, (executes _ _ _).mpr there⟩
    · exact made.made
    · exact made.apart

/-- The request takes a free object, and becomes its one owner. -/
theorem take_lawful (lawful : service.Lawful) {runId : String} {lock : Nat}
    (fetched : service.requests.get? request = some (.fetched runId lock)) (free : service.locked lock = false) :
    (LockService.enter { service with locked := Function.update service.locked lock true } request
      (.executing runId lock)).Lawful := by
  -- the object is free, so no request executes under it
  have nobody : ∀ other otherId, service.requests.get? other ≠ some (.executing otherId lock) := by
    intro other otherId there
    rw [lawful.taken other otherId lock there] at free
    cases free
  constructor
  · rintro other otherId held (entered | entered)
    · rw [enter_requests] at entered
      split at entered
      · cases entered
      · exact lawful.current other otherId held (.inl entered)
    · rw [enter_requests] at entered
      split at entered
      · obtain ⟨rfl, rfl⟩ : runId = otherId ∧ lock = held := by simpa using entered
        exact lawful.current request runId lock (.inl fetched)
      · exact lawful.current other otherId held (.inr entered)
  · intro other otherId held entered
    rw [enter_requests] at entered
    split at entered
    · obtain ⟨rfl, rfl⟩ : runId = otherId ∧ lock = held := by simpa using entered
      exact Function.update_self _ _ _
    · have different : held ≠ lock := by
        rintro rfl
        exact nobody other otherId entered
      exact (Function.update_of_ne different _ _).trans (lawful.taken other otherId held entered)
  · intro first second firstId secondId held left right
    rw [enter_requests] at left right
    split at left <;> split at right
    · simp_all
    · obtain ⟨rfl, rfl⟩ : runId = firstId ∧ lock = held := by simpa using left
      exact absurd right (nobody second secondId)
    · obtain ⟨rfl, rfl⟩ : runId = secondId ∧ lock = held := by simpa using right
      exact absurd left (nobody first firstId)
    · exact lawful.sole first second firstId secondId held left right
  · -- the object that was taken has its owner now; the others keep theirs
    intro held locked
    by_cases same : held = lock
    · subst same
      exact ⟨request, runId, by simp⟩
    · have earlier : service.locked held = true := (Function.update_of_ne same _ _).symm.trans locked
      obtain ⟨owner, ownerId, there⟩ := lawful.owned held earlier
      refine ⟨owner, ownerId, ?_⟩
      rw [enter_requests, if_neg]
      · exact there
      · rintro rfl
        rw [fetched] at there
        cases there
  · exact lawful.made
  · exact lawful.apart

theorem acquire_lawful (lawful : service.Lawful) : (service.next (.acquire request)).Lawful := by
  unfold LockService.next
  dsimp only
  split
  · rename_i runId lock fetched
    split
    · apply enter_idle lawful
      · exact fun _ _ => ⟨by simp, by simp⟩
      · intro otherId held there
        rw [fetched] at there
        cases there
    · rename_i free
      exact take_lawful lawful fetched (Bool.eq_false_iff.mpr free)
  · exact lawful

theorem release_lawful (lawful : service.Lawful) : (service.next (.release request)).Lawful := by
  unfold LockService.next
  dsimp only
  split
  · rename_i runId lock executing
    -- the object was this request's alone, so nobody else loses it
    have other_lock : ∀ other otherId held, other ≠ request →
        service.requests.get? other = some (.executing otherId held) → held ≠ lock := by
      rintro other otherId held different there rfl
      exact different (lawful.sole other request otherId runId held there executing)
    constructor
    · rintro other otherId held (entered | entered) <;> rw [enter_requests] at entered <;> split at entered
      · cases entered
      · exact lawful.current other otherId held (.inl entered)
      · cases entered
      · exact lawful.current other otherId held (.inr entered)
    · intro other otherId held entered
      rw [enter_requests] at entered
      split at entered
      · cases entered
      · rename_i different
        have apart := other_lock other otherId held different entered
        exact (Function.update_of_ne apart _ _).trans (lawful.taken other otherId held entered)
    · intro first second firstId secondId held left right
      rw [enter_requests] at left right
      split at left
      · cases left
      · split at right
        · cases right
        · exact lawful.sole first second firstId secondId held left right
    · intro held locked
      by_cases same : held = lock
      · subst same
        exact absurd ((Function.update_self _ _ _).symm.trans locked) (by simp)
      · have earlier : service.locked held = true := (Function.update_of_ne same _ _).symm.trans locked
        obtain ⟨owner, ownerId, there⟩ := lawful.owned held earlier
        refine ⟨owner, ownerId, ?_⟩
        rw [enter_requests, if_neg]
        · exact there
        · rintro rfl
          rw [executing] at there
          simp only [Option.some.injEq, RequestPhase.executing.injEq] at there
          exact same there.2.symm
    · exact lawful.made
    · exact lawful.apart
  · exact lawful

theorem remove_lawful (lawful : service.Lawful) (orderly : (LockStep.remove request).Orderly service) :
    (service.next (.remove request)).Lawful := by
  unfold LockService.next
  dsimp only
  split
  · rename_i runId lock released
    apply enter_idle ?_
    · exact fun _ _ => ⟨by simp, by simp⟩
    · intro otherId held there
      rw [released] at there
      cases there
    split
    · exact lawful
    · rename_i free
      -- no request of the run uses an object, so the entry may go
      have unused := orderly runId lock released (Bool.eq_false_iff.mpr free)
      have kept : ∀ otherId held, (service.executionLocks.keep (· != runId)).get? otherId = some held →
          service.executionLocks.get? otherId = some held := by
        intro otherId held present
        rw [Table.get?_keep] at present
        split at present
        · exact present
        · cases present
      constructor
      · intro other otherId held uses
        rw [Table.get?_keep, if_pos]
        · exact lawful.current other otherId held uses
        · rw [bne_iff_ne]
          rintro rfl
          exact unused other held uses
      · exact lawful.taken
      · exact lawful.sole
      · exact lawful.owned
      · exact fun otherId held present => lawful.made otherId held (kept otherId held present)
      · exact fun firstId secondId held left right =>
          lawful.apart firstId secondId held (kept _ _ left) (kept _ _ right)
  · exact lawful

theorem lawful_reachable (reachable : lockMachine.Reachable LockStep.Orderly service) : service.Lawful := by
  apply reachable.invariant
  · rintro state rfl
    constructor
    · rintro request runId lock (there | there) <;> cases there
    · intro request runId lock there
      cases there
    · intro first second runId otherId lock there
      cases there
    · intro lock locked
      cases locked
    · intro runId lock present
      cases present
    · intro runId otherId lock present
      cases present
  · intro state step lawful orderly
    cases step with
    | fetch request runId => exact fetch_lawful lawful runId
    | acquire request => exact acquire_lawful lawful
    | release request => exact release_lawful lawful
    | remove request => exact remove_lawful lawful orderly

end Steps

/-- Two requests are in their critical sections for the run. -/
def LockService.Overlaps (service : LockService) (runId : String) : Prop :=
  ∃ first second, first ≠ second ∧ service.Executing runId first ∧ service.Executing runId second

section Overlap

open LockService

variable {service : LockService} {request other : Nat} {runId : String}

theorem acquire_free {lock : Nat} (fetched : service.requests.get? request = some (.fetched runId lock))
    (free : service.locked lock = false) :
    service.next (.acquire request) = LockService.enter
      { service with locked := Function.update service.locked lock true } request (.executing runId lock) := by
  simp [LockService.next, fetched, free]

@[simp] theorem enter_locked (phase : RequestPhase) : (service.enter request phase).locked = service.locked := rfl

@[simp] theorem enter_locks (phase : RequestPhase) :
    (service.enter request phase).executionLocks = service.executionLocks := rfl

/-- Where an executing request has lost its entry, one more request gets another object. -/
theorem removed_overlaps (absent : service.executionLocks.get? runId = none) (executing : service.Executing runId other)
    (unlocked : service.locked service.created = false) :
    ∃ steps, (lockMachine.runAll service steps).Overlaps runId := by
  obtain ⟨newcomer, fresh⟩ := Infinite.exists_notMem_finset service.requests.keys.toFinset
  rw [List.mem_toFinset] at fresh
  obtain ⟨held, there⟩ := executing
  have different : other ≠ newcomer := by
    rintro rfl
    exact fresh (Table.mem_keys.mpr ⟨_, there⟩)
  have fetches : service.next (.fetch newcomer runId) = LockService.enter
      { service with
        executionLocks := service.executionLocks.set runId service.created
        created := service.created + 1 } newcomer (.fetched runId service.created) := by
    simp [LockService.next, fresh, setDefault, absent]
  have takes : lockMachine.runAll service [.fetch newcomer runId, .acquire newcomer] = LockService.enter
      { service.next (.fetch newcomer runId) with
        locked := Function.update service.locked service.created true } newcomer (.executing runId service.created) := by
    change (service.next (.fetch newcomer runId)).next (.acquire newcomer) = _
    have unchanged : (service.next (.fetch newcomer runId)).locked = service.locked := by
      rw [fetches]
      rfl
    rw [← unchanged]
    apply acquire_free
    · rw [fetches]
      simp
    · rw [unchanged]
      exact unlocked
  refine ⟨[.fetch newcomer runId, .acquire newcomer], other, newcomer, different, ⟨held, ?_⟩, service.created, ?_⟩
  · rw [takes, fetches]
    simp [different, there]
  · rw [takes]
    simp

/-- A request that has fetched an object whose entry is gone still takes it. -/
theorem fetched_overlaps {held : Nat} (absent : service.executionLocks.get? runId = none)
    (fetched : service.requests.get? other = some (.fetched runId held)) (free : service.locked held = false)
    (sooner : held < service.created) (unlocked : service.locked service.created = false) :
    ∃ steps, (lockMachine.runAll service steps).Overlaps runId := by
  have taken : ∃ steps, (lockMachine.runAll (service.next (.acquire other)) steps).Overlaps runId := by
    rw [acquire_free fetched free]
    have executing : (LockService.enter { service with locked := Function.update service.locked held true } other
        (.executing runId held)).Executing runId other := ⟨held, by simp⟩
    refine removed_overlaps ?_ executing ?_
    · exact absent
    exact (Function.update_of_ne (Nat.ne_of_gt sooner) _ _).trans unlocked
  obtain ⟨steps, overlaps⟩ := taken
  exact ⟨.acquire other :: steps, overlaps⟩

/-- After a removal that is not orderly some order of steps makes two requests overlap. -/
theorem disorderly_overlaps (lawful : service.Lawful) {step : LockStep} (disorderly : ¬ step.Orderly service) :
    ∃ runId steps, (lockMachine.runAll (service.next step) steps).Overlaps runId := by
  cases step with
  | fetch | acquire | release => exact absurd trivial disorderly
  | remove request =>
    simp only [LockStep.Orderly, not_forall, not_not] at disorderly
    obtain ⟨runId, lock, released, free, other, held, uses⟩ := disorderly
    have after : service.next (.remove request) = LockService.enter
        { service with executionLocks := service.executionLocks.keep (· != runId) } request .answered := by
      simp [LockService.next, released, free]
    have absent : (service.next (.remove request)).executionLocks.get? runId = none := by
      rw [after]
      simp [LockService.enter]
    have stays : ∀ one phase, one ≠ request → service.requests.get? one = some phase →
        (service.next (.remove request)).requests.get? one = some phase := by
      intro one phase different there
      rw [after]
      simp [different, there]
    have busy : ∀ one ownId object, service.requests.get? one = some (.executing ownId object) → one ≠ request := by
      rintro one ownId object there rfl
      rw [released] at there
      cases there
    have unlocked : service.locked service.created = false := by
      -- a taken object is on the map, so it was made before
      by_contra taken
      obtain ⟨owner, ownId, there⟩ := lawful.owned _ (Bool.eq_true_of_not_eq_false taken)
      exact Nat.lt_irrefl _ (lawful.made ownId _ (lawful.current owner ownId _ (.inr there)))
    refine ⟨runId, ?_⟩
    rcases uses with fetched | executing
    · by_cases taken : service.locked held = true
      · obtain ⟨owner, ownId, there⟩ := lawful.owned held taken
        obtain rfl := lawful.apart ownId runId held (lawful.current owner ownId held (.inr there))
          (lawful.current other runId held (.inl fetched))
        apply removed_overlaps absent ⟨held, stays owner _ (busy owner _ _ there) there⟩
        rw [after]
        exact unlocked
      · have different : other ≠ request := by
          rintro rfl
          rw [released] at fetched
          cases fetched
        have sooner : held < service.created := lawful.made runId held (lawful.current other runId held (.inl fetched))
        apply fetched_overlaps absent (stays other _ different fetched)
        · rw [after]
          exact Bool.eq_false_iff.mpr taken
        · rw [after]
          exact sooner
        · rw [after]
          exact unlocked
    · apply removed_overlaps absent ⟨held, stays other _ (busy other _ _ executing) executing⟩
      rw [after]
      exact unlocked

end Overlap

/-- While every removal of an entry is orderly, at most one request is in its
critical section for a run; and after a removal that is not, two can be. -/
theorem execution_lock_excludes (service : LockService)
    (reachable : lockMachine.Reachable LockStep.Orderly service) :
    (∀ runId first second, service.Executing runId first → service.Executing runId second → first = second) ∧
      ∀ step : LockStep, ¬ step.Orderly service →
        ∃ runId steps, (lockMachine.runAll (lockMachine.next service step) steps).Overlaps runId := by
  have lawful := lawful_reachable reachable
  constructor
  · rintro runId first second ⟨lock, left⟩ ⟨held, right⟩
    -- both objects are the one on the map
    have same : some lock = some held :=
      (lawful.current first runId lock (.inr left)).symm.trans (lawful.current second runId held (.inr right))
    obtain rfl := Option.some.inj same
    exact lawful.sole first second runId runId lock left right
  · exact fun step disorderly => disorderly_overlaps lawful disorderly

section Sample

/-- The service after some steps of requests. -/
def lockedAfter (steps : List LockStep) : LockService :=
  lockMachine.runAll ⟨.empty, 0, fun _ => false, .empty⟩ steps

theorem execution_lock_excludes_pair :
    ¬ (lockedAfter [.fetch 1 "run", .acquire 1, .fetch 2 "run", .acquire 2]).Overlaps "run" := by
  have permitted : Machine.AllowedAll lockMachine LockStep.Orderly ⟨.empty, 0, fun _ => false, .empty⟩
      [.fetch 1 "run", .acquire 1, .fetch 2 "run", .acquire 2] := ⟨trivial, trivial, trivial, trivial, trivial⟩
  have sole := (execution_lock_excludes _ ⟨_, rfl, Machine.follows_runAll _ _ permitted⟩).1 "run"
  rintro ⟨first, second, different, left, right⟩
  exact different (sole first second left right)

/-- The second request fetches the object before the first removes its entry, and
takes it afterwards; the third gets a new object. -/
theorem execution_lock_overlaps :
    (lockedAfter [.fetch 1 "run", .acquire 1, .release 1, .fetch 2 "run", .remove 1, .acquire 2, .fetch 3 "run",
      .acquire 3]).Overlaps "run" :=
  ⟨2, 3, by decide, ⟨0, by decide⟩, 1, by decide⟩

end Sample

end ControlTower
