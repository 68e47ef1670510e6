import ControlTower.Run.Steady

/-! The deeds a request can do to one run, each with the situation it needs. A
request does a list of them, and steady courses stay steady. -/

set_option autoImplicit false

namespace ControlTower

open Foundation
open Foundation.Procedure

inductive Deed where
  /-- The run takes a capability lease. -/
  | bind (leaseId : String)
  /-- An authorization asks for a human, blocks the step, or lets it through. -/
  | hold | block | clear
  /-- A human decision on an action that names the focused step, or another step. -/
  | decided (decision : ActionAuthorizationDecision)
  | decidedElsewhere (decision : ActionAuthorizationDecision)
  | pause | resume | cancel | retry | recover
  | begin (workerId : String)
  | finish (decision : VerificationDecision)
  deriving DecidableEq

namespace Deed

def move : Deed → Move
  | .bind leaseId => Move.bind leaseId
  | .hold => Move.hold
  | .block => Move.block
  | .clear => Move.allow
  | .decided .allow => Move.allow
  | .decided .block => Move.deny
  | .decidedElsewhere .allow => Move.allowElsewhere
  | .decidedElsewhere .block => Move.denyElsewhere
  | .pause => Move.pause
  | .resume => Move.resume
  | .cancel => Move.cancel
  | .retry => Move.retry
  | .recover => Move.recover
  | .begin workerId => Move.begin workerId
  | .finish decision => Move.finish decision

/-- The situation in which the service does a deed. -/
def Enabled (deed : Deed) (course : Course) : Prop :=
  match deed with
  | .pause | .cancel => course.step ≠ .running ∧ course.holder = none
  | .retry => course.focus.runId = course.binding.id ∧ course.run.isTerminal = false
  | .begin _ => course.Startable ∧ (course.step = .ready ∨ course.step = .retryWait) ∧ course.holder = none
  | .finish _ => course.step = .running
  | _ => True

end Deed

/-- Where a list of deeds leads. -/
def Course.along (course : Course) (deeds : List Deed) : Course :=
  deeds.foldl (fun course deed => course.after deed.move) course

@[simp] theorem Course.along_nil (course : Course) : course.along [] = course := rfl

@[simp] theorem Course.along_cons (course : Course) (deed : Deed) (deeds : List Deed) :
    course.along (deed :: deeds) = (course.after deed.move).along deeds := rfl

@[simp] theorem Course.along_append (course : Course) (deeds more : List Deed) :
    course.along (deeds ++ more) = (course.along deeds).along more := List.foldl_append

/-- A list of deeds leads from a course to another one. -/
inductive Performs : Course → List Deed → Course → Prop where
  | done (course : Course) : Performs course [] course
  | deed {course last : Course} {deeds : List Deed} (deed : Deed) (enabled : deed.Enabled course)
      (rest : Performs (course.after deed.move) deeds last) : Performs course (deed :: deeds) last

/-- Every deed of a list meets a condition in the course it finds. -/
def Course.Along (permit : Course → Deed → Prop) : Course → List Deed → Prop
  | _, [] => True
  | course, deed :: rest => permit course deed ∧ (course.after deed.move).Along permit rest

theorem Course.along_two {permit : Course → Deed → Prop} (course : Course) (deeds more : List Deed)
    (start : course.Along permit deeds) (rest : (course.along deeds).Along permit more) :
    course.Along permit (deeds ++ more) := by
  induction deeds generalizing course with
  | nil => exact rest
  | cons deed deeds ih => exact ⟨start.1, ih _ start.2 rest⟩

theorem Course.Steady.deed {course : Course} (steady : course.Steady) (deed : Deed) (enabled : deed.Enabled course) :
    (course.after deed.move).Steady := by
  cases deed with
  | bind leaseId => exact steady.bind leaseId
  | hold => exact steady.hold
  | block => exact steady.block
  | clear => exact steady.allow
  | decided decision => cases decision; exacts [steady.allow, steady.deny]
  | decidedElsewhere decision => cases decision; exacts [steady.allowElsewhere, steady.denyElsewhere]
  | pause => exact steady.pause enabled.1
  | resume => exact steady.resume
  | cancel => exact steady.cancel
  | retry => exact steady.retry enabled.1 enabled.2
  | recover => exact steady.recover
  | begin workerId => exact steady.begin workerId enabled.1 enabled.2.1
  | finish decision => exact steady.finish decision enabled

namespace Performs

variable {course middle last : Course} {deeds more : List Deed}

theorem single (deed : Deed) (enabled : deed.Enabled course) :
    Performs course [deed] (course.after deed.move) :=
  .deed deed enabled (.done _)

theorem along (performs : Performs course deeds last) : last = course.along deeds := by
  induction performs with
  | done => rfl
  | deed deed _ _ ih => exact ih

theorem append (start : Performs course deeds middle) (rest : Performs middle more last) :
    Performs course (deeds ++ more) last := by
  induction start with
  | done => exact rest
  | deed deed enabled _ ih => exact .deed deed enabled (ih rest)

theorem snoc (start : Performs course deeds middle) (deed : Deed) (enabled : deed.Enabled middle) :
    Performs course (deeds ++ [deed]) (middle.after deed.move) :=
  start.append (single deed enabled)

/-- What every deed keeps is kept along a list of deeds. -/
theorem keeps {invariant : Course → Prop} (performs : Performs course deeds last) (start : invariant course)
    (keep : ∀ course, ∀ deed ∈ deeds, deed.Enabled course → invariant course → invariant (course.after deed.move)) :
    invariant last := by
  induction performs with
  | done => exact start
  | deed deed enabled _ ih =>
    exact ih (keep _ deed List.mem_cons_self enabled start) fun course other member =>
      keep course other (List.mem_cons_of_mem _ member)

/-- What every permitted deed keeps is kept along permitted deeds. -/
theorem keepsAlong {invariant : Course → Prop} {permit : Course → Deed → Prop} (performs : Performs course deeds last)
    (along : course.Along permit deeds) (start : invariant course)
    (keep : ∀ course deed, deed.Enabled course → permit course deed → invariant course →
      invariant (course.after deed.move)) : invariant last := by
  induction performs with
  | done => exact start
  | deed deed enabled _ ih => exact ih along.2 (keep _ deed enabled along.1 start)

theorem steady (performs : Performs course deeds last) (start : course.Steady) : last.Steady :=
  performs.keeps start fun _ deed _ enabled steady => steady.deed deed enabled

end Performs

end ControlTower
