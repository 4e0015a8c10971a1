import TaskTiming.CommandLine
import TaskTiming.Experiment.Codec
import TaskTiming.Experiment.Drive
import TaskTiming.Log.Inspection
import TaskTiming.Store.File

/-!
# Commands

What each command does, in any surroundings that have files, a place to print and a host to measure on
and run tasks on.
-/

namespace TaskTiming
set_option autoImplicit false

class Surroundings (m : Type → Type) extends Storage m where
  print : String → m Unit
  calibrate : Calibration.Request → m (Result Calibration)
  measureOverheads : UInt64 → ReleaseKind → UInt32 → m (Result Overheads)
  /-- Runs an experiment to its end. -/
  conduct : Experiment → Store → m (Result Unit)

namespace Command

variable {m : Type → Type} [Monad m] [Surroundings m]

/-- Prints a line. -/
def print (line : String) : ExceptT Error m Unit := ExceptT.lift (Surroundings.print line)

/-- Calibrates, and puts the calibration into the store. -/
def runCalibrate (store : Path) (r : Calibration.Request) : ExceptT Error m Unit := do
  let calibration ← ExceptT.mk (Surroundings.calibrate r)
  print ("CPU " ++ Decimal.text r.cpu.toNat ++ ": " ++ Decimal.text calibration.iterations.toNat
    ++ " iterations for " ++ calibration.target.text ++ "s")
  let known ← ExceptT.mk (Store.loadOrEmpty store)
  ExceptT.mk ((known.setBusyloop r.cpu calibration).save store)

/-- Measures the overheads of one kind of task, and puts them into a store. -/
def addOverheads (cpu : UInt64) (rounds : UInt32) (known : Store) (release : ReleaseKind) :
    ExceptT Error m Store := do
  let o ← ExceptT.mk (Surroundings.measureOverheads cpu release rounds)
  print ("CPU " ++ Decimal.text cpu.toNat ++ " " ++ release.label ++ ": job stats "
    ++ o.jobStats.readableText ++ ", finish to start " ++ o.finishToStart.readableText)
  return known.setOverheads cpu release o

/-- Measures the overheads of both kinds of task. -/
def runOverhead (store : Path) (cpu : UInt64) (rounds : UInt32) : ExceptT Error m Unit := do
  let known ← ExceptT.mk (Store.loadOrEmpty store)
  let known ← addOverheads cpu rounds known .periodic
  let known ← addOverheads cpu rounds known .aperiodic
  ExceptT.mk (known.save store)

/-- Runs an experiment, for another duration if one is given. -/
def runExperiment (store config : Path) (duration : Option Time) : ExceptT Error m Unit := do
  let experiment ← ExceptT.mk (Experiment.load config)
  let known ← ExceptT.mk (Store.load store)
  ExceptT.mk (Surroundings.conduct
    { experiment with duration := duration <|> experiment.duration } known)

/-- Prints what is in a log. -/
def inspectLog (samples : Bool) (log : Path) : ExceptT Error m Unit := do
  match ← Storage.read (m := m) log with
  | .error cause => throw (.io cause)
  | .ok content =>
    let source : Log.Source := match content with
      | .ok bytes => .ofBytes bytes
      | .error cause => { deliveries := [], ending := .fails cause }
    let (lines, outcome) := Log.inspect log source samples
    lines.forM print
    ExceptT.mk (pure outcome)

/-- Does what a command line asks for. -/
def perform (i : Invocation) : m (Result Unit) :=
  match i.command with
  | .calibrate r => (runCalibrate i.store r).run
  | .overhead cpu rounds => (runOverhead i.store cpu rounds).run
  | .run config duration => (runExperiment i.store config duration).run
  | .inspect logs samples => (logs.forM (inspectLog samples) : ExceptT Error m Unit).run

/-- The exit status after a command. -/
def exitStatus : Result Unit → Nat
  | .ok () => 0
  | .error (.privilege _) => 2
  | .error _ => 1

end Command

namespace World

/-- Does something to the disk. -/
def onDisk {α : Type} (access : StateM Disk α) : StateM World α := fun w =>
  let (a, disk) := access.run w.disk
  (a, { w with disk })

/-- A loop whose rounds take a nanosecond each. -/
def meter : Calibration.Meter Unit := .new (fun n s => (.ok (.ofNanos n), s)) ()

/-- A host on which nothing costs any time. -/
def bench : Overheads.Bench :=
  { sampled := fun _ => default, backToBack := fun _ _ => (.zero, SampleArray.empty.recordAll [default, default]) }

/-- The most turns of a session. -/
def maxTurns : Nat := 100000000

instance : Surroundings (StateM World) where
  read p := onDisk (Storage.read p)
  holds p := onDisk (Storage.holds p)
  create p := onDisk (Storage.create p)
  write p offset bytes := onDisk (Storage.write p offset bytes)
  print line := fun w => ((), w.print line)
  calibrate r := fun w => (Calibration.run w.host r meter, w)
  measureOverheads cpu release rounds := fun w =>
    (Overheads.measure w.host bench cpu release rounds, w)
  conduct experiment store := fun w =>
    let (s, w) := (Session.start w.host experiment store).drive w maxTurns
    (s.outcome?.getD (.ok ()), w)

end World

end TaskTiming
