import TaskTiming.Ring
import TaskTiming.Overheads
import TaskTiming.ReleaseKind
import TaskTiming.Log.Header

/-!
# Task parameters

What a task declares: its times, how it is released, how its samples are kept, and when it stops on its
own.
-/

namespace TaskTiming
set_option autoImplicit false

/-- How the samples of a task are kept. -/
structure StatsConfig where
  enabled : Bool
  capacity : UInt64
  policy : OverrunPolicy
deriving DecidableEq

/-- A ring of 4096 samples that replaces its oldest ones. -/
def StatsConfig.standard : StatsConfig := { enabled := true, capacity := 4096, policy := .overwrite }

structure TaskParams where
  name : String
  wcet : Time
  period : Time
  deadline : Time
  /-- The first release lies this long after the common start. -/
  offset : Time
  release : ReleaseKind
  stats : StatsConfig
  overheads : Overheads
  /-- The task stops on its own after so many jobs. -/
  maxJobs : Option UInt64
deriving DecidableEq

namespace TaskParams

/-- A periodic task whose deadline is its period. -/
def periodic (name : String) (wcet period : Time) : TaskParams :=
  { name, wcet, period, deadline := period, offset := .zero, release := .periodic
    stats := .standard, overheads := .none, maxJobs := none }

def aperiodic (name : String) (wcet deadline : Time) : TaskParams :=
  { periodic name wcet .zero with deadline, release := .aperiodic }

/-- Refuses what no task can be run with; the first fault in this order is reported. -/
def validate (p : TaskParams) : Result Unit :=
  if p.name.isEmpty then .error (.argument .nameEmpty)
  else if p.wcet.isZero then .error (.argument (.wcetZero p.name))
  else if p.stats.enabled ∧ p.stats.capacity = 0 then .error (.argument (.statsCapacityZero p.name))
  else if p.maxJobs = some 0 then .error (.argument (.maxJobsZero p.name))
  else .ok ()

/-- The header of the task's log, with the common start of all tasks. -/
def header (p : TaskParams) (t0 : Time) : Log.Header :=
  { name := p.name, release := p.release, statsDisabled := !p.stats.enabled, wcet := p.wcet
    period := p.period, deadline := p.deadline, t0, offset := p.offset, overheads := p.overheads }

end TaskParams

end TaskTiming
