import TaskTiming.Task.Params
import TaskTiming.Path

/-!
# Experiments

Tasks that run together: from a common start, for a duration or until they are over, each with a log of
its own in a common directory.
-/

namespace TaskTiming
set_option autoImplicit false

/-- A task of an experiment. -/
structure ExperimentTask where
  params : TaskParams
  /-- Its CPU, if it is not the common one. -/
  cpu : Option UInt64
  /-- Its priority in a real-time class. -/
  priority : Option Int32
  /-- The path of its log from the log directory, if it is not named for the task. -/
  log : Option Path
  /-- The time from one generated release of an aperiodic task to the next. -/
  releaseInterval : Option Time
deriving DecidableEq

structure Experiment where
  /-- How long the tasks run. -/
  duration : Option Time
  /-- The common CPU. -/
  cpu : UInt64
  logDir : Path
  /-- Tasks enter a real-time class. -/
  realtime : Bool
  /-- The time from setting up to the common start. -/
  startDelay : Time
  tasks : List ExperimentTask
deriving DecidableEq

namespace ExperimentTask

/-- The priority unless another one is given. -/
def defaultPriority : Int32 := 50

def priorityOr (t : ExperimentTask) : Int32 := t.priority.getD defaultPriority

/-- The path of the task's log. -/
def logPath (t : ExperimentTask) (logDir : Path) : Path :=
  logDir.join (t.log.getD ⟨t.params.name ++ ".log"⟩)

/-- What releases the jobs must be given: an interval, or a period. -/
def checkTiming (t : ExperimentTask) : Result Unit :=
  match t.params.release with
  | .aperiodic =>
    match t.releaseInterval with
    | none => .error (.argument (.noInterval t.params.name))
    | some interval =>
      if interval.isZero then .error (.argument (.intervalZero t.params.name)) else .ok ()
  | .periodic =>
    if t.params.period.isZero then .error (.argument (.periodZero t.params.name)) else .ok ()

/-- Refuses a task that has its name or its log in common with one before it, or lacks its timing. -/
def check (logDir : Path) (before : List ExperimentTask) (t : ExperimentTask) : Result Unit :=
  if before.any fun u => u.params.name = t.params.name then
    .error (.argument (.duplicateTask t.params.name))
  else if before.any fun u => (u.logPath logDir).same (t.logPath logDir) then
    .error (.argument (.sharedLog t.params.name))
  else t.checkTiming

end ExperimentTask

namespace Experiment

/-- The time from setting up to the common start, unless another one is given. -/
def defaultStartDelay : Time := .ofMillis 100

def defaultLogDir : Path := ⟨"logs"⟩

def taskCpu (e : Experiment) (t : ExperimentTask) : UInt64 := t.cpu.getD e.cpu

/-- Checks tasks one after the other, each against those before it. -/
def checkTasks (logDir : Path) (before : List ExperimentTask) : List ExperimentTask → Result Unit
  | [] => .ok ()
  | t :: rest => do
    t.check logDir before
    checkTasks logDir (before ++ [t]) rest

/-- Refuses what cannot be run; the fault of the first task that has one is reported. -/
def validate (e : Experiment) : Result Unit :=
  if e.tasks.isEmpty then .error (.argument .noTasks) else checkTasks e.logDir [] e.tasks

end Experiment

end TaskTiming
