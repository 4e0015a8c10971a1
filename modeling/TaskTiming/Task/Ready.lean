import TaskTiming.Task.Params
import TaskTiming.Calibration
import TaskTiming.Log.Writer
import TaskTiming.Disk

/-!
# Tasks ready to start

A task is made ready before its thread is: its parameters are checked, its ring is laid out, and its log
is made with the header in it. Everything that can be refused is refused before there is a log.
-/

namespace TaskTiming
set_option autoImplicit false

/-- A task whose thread has not been started. -/
structure ReadyTask where
  params : TaskParams
  /-- The common start of all tasks. -/
  t0 : Time
  /-- The ring for its samples, if any are wanted. -/
  ring : Option Ring
  /-- Its log with the header. -/
  log : Log.Writer
  path : Path

namespace ReadyTask

/-- The ring that the parameters ask for. -/
def ringOf (s : StatsConfig) : Result (Option Ring) :=
  if s.enabled then (Ring.new s.capacity.toNat s.policy).map some else .ok none

/-- Makes a task ready but for its log on the disk. -/
def prepare (p : TaskParams) (t0 : Time) (path : Path) : Result ReadyTask := do
  p.validate
  let _ ← Result.ofTime (t0.add? p.offset)
  let ring ← ringOf p.stats
  let log ← Log.Writer.new (p.header t0)
  return { params := p, t0, ring, log, path }

/-- Makes ready a task whose jobs use up the budget that its overheads leave, and says how many rounds of
the calibrated loop that is. -/
def prepareBusy (p : TaskParams) (t0 : Time) (calibration : Calibration) (path : Path) :
    Result (ReadyTask × Calibration) := do
  let budget ← p.overheads.effectiveBudget p.wcet
  let job ← calibration.scaledTo budget
  return (← prepare p t0 path, job)

/-- Makes the log on the disk. -/
def create (task : ReadyTask) (d : Disk) : Result Unit × Disk := task.log.save task.path d

/-- Makes a task ready, with its log on the disk. -/
def new (p : TaskParams) (t0 : Time) (path : Path) (d : Disk) : Result ReadyTask × Disk :=
  match prepare p t0 path with
  | .error e => (.error e, d)
  | .ok task =>
    let (outcome, d) := task.create d
    (outcome.map fun _ => task, d)

/-- Makes ready a task whose jobs are busy, with its log on the disk. -/
def newBusy (p : TaskParams) (t0 : Time) (calibration : Calibration) (path : Path) (d : Disk) :
    Result (ReadyTask × Calibration) × Disk :=
  match prepareBusy p t0 calibration path with
  | .error e => (.error e, d)
  | .ok (task, job) =>
    let (outcome, d) := task.create d
    (outcome.map fun _ => (task, job), d)

/-- Whether the thread can be started: an aperiodic task needs releases, and the system takes no thread
name with a NUL character. -/
def checkStart (task : ReadyTask) (hasReleases : Bool) : Result Unit :=
  if task.params.release = .aperiodic ∧ !hasReleases then
    .error (.argument (.noReleaseSource task.params.name))
  else if task.params.name.toList.contains '\x00' then .error (.aborted .nulInThreadName)
  else .ok ()

end ReadyTask

end TaskTiming
