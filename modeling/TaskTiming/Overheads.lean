import TaskTiming.Time.Arith
import TaskTiming.Error

/-!
# Overheads

What a job costs besides its own work: taking its sample, and the way from the finish of one job to
the start of the next. Both come off the worst-case execution time that a task declares.
-/

namespace TaskTiming
set_option autoImplicit false

structure Overheads where
  jobStats : Time
  finishToStart : Time
deriving DecidableEq

namespace Overheads

/-- Nothing was measured. -/
def none : Overheads := { jobStats := .zero, finishToStart := .zero }

def total (o : Overheads) : Time := o.jobStats + o.finishToStart

/-- The part of a worst-case execution time that is left for the job itself. -/
def effectiveBudget (o : Overheads) (wcet : Time) : Result Time :=
  match wcet.sub? o.total with
  | .ok budget => if budget.isZero then .error (.budget wcet o.total) else .ok budget
  | .error _ => .error (.budget wcet o.total)

/-- Less than the longest time is left by overheads that exceed it together: the clamped total
refuses what the exact one refuses. -/
theorem toNanos_total (o : Overheads) :
    o.total.toNanos = min (o.jobStats.toNanos + o.finishToStart.toNanos) Time.max.toNanos := by
  rw [total, Time.add_eq, Time.toNanos_ofNanosClamped]

end Overheads

end TaskTiming
