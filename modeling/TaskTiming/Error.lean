import TaskTiming.Time.Text
import TaskTiming.Json.Fault
import TaskTiming.Text.Hex

/-!
# Errors

What can go wrong, as causes, and the sentence each is reported with. An abort is no error: it ends
the thread in which it happens, and nothing is reported of it.
-/

namespace TaskTiming
set_option autoImplicit false

/-- What is wrong with an argument. -/
inductive ArgumentFault
  | toleranceZero
  | passesZero
  | ringCapacityZero
  | nameTooLong
  | nameEmpty
  | wcetZero (task : String)
  | statsCapacityZero (task : String)
  | maxJobsZero (task : String)
  | noReleaseSource (task : String)
  | noRounds
  | cpuIndex (cpu : Nat)
  | cpuNotAllowed (cpu : Nat) (allowed : List Nat)
  | fifoPriority (priority : Int)
  | noTasks
  | duplicateTask (task : String)
  | sharedLog (task : String)
  | noInterval (task : String)
  | intervalZero (task : String)
  | periodZero (task : String)
  | notCalibrated (cpu : Nat)
  | notATime (fault : TimeFault)
  | other (text : String)
deriving DecidableEq, Repr

/-- Numbers between braces, with commas. -/
def setText (ns : List Nat) : String :=
  "\x7b" ++ ", ".intercalate (ns.map Decimal.text) ++ "\x7d"

/-- The number of CPUs that a CPU set can hold. -/
def cpuCapacity : Nat := 1024

def ArgumentFault.message : ArgumentFault → String
  | .toleranceZero => "tolerance must be > 0"
  | .passesZero => "max_passes must be > 0"
  | .ringCapacityZero => "statistics ring capacity must be > 0"
  | .nameTooLong => "task name too long"
  | .nameEmpty => "task name must not be empty"
  | .wcetZero task => "task " ++ task ++ ": wcet must be > 0"
  | .statsCapacityZero task => "task " ++ task ++ ": statistics capacity must be > 0"
  | .maxJobsZero task => "task " ++ task ++ ": max_jobs must be > 0"
  | .noReleaseSource task => "aperiodic task " ++ task ++ " has no release source"
  | .noRounds => "overhead measurement needs at least one round"
  | .cpuIndex cpu =>
    "cpu index " ++ Decimal.text cpu ++ " exceeds CPU_SET_CAPACITY (" ++ Decimal.text cpuCapacity ++ ")"
  | .cpuNotAllowed cpu allowed =>
    "cpu " ++ Decimal.text cpu ++ " is not in the allowed set " ++ setText allowed
  | .fifoPriority priority =>
    "SCHED_FIFO priority " ++ Decimal.intText priority ++ " outside [1, 99]"
  | .noTasks => "experiment has no tasks"
  | .duplicateTask task => "duplicate task name " ++ task
  | .sharedLog task => "task " ++ task ++ " shares its log file with another task"
  | .noInterval task => "aperiodic task " ++ task ++ " needs a release_interval"
  | .intervalZero task => "task " ++ task ++ ": release_interval must be > 0"
  | .periodZero task => "periodic task " ++ task ++ " needs a period > 0"
  | .notCalibrated cpu =>
    "no busyloop calibration for CPU " ++ Decimal.text cpu ++ ", run `calibrate --cpu "
      ++ Decimal.text cpu ++ "` first"
  | .notATime fault => fault.message
  | .other text => text

/-- The parts of a log's header, in their order. -/
inductive HeaderPart
  | magic
  | version
  | byteOrder
  | timestampSizes
  | flags
  | time
  | nameLength
  | name
deriving DecidableEq, Repr

def HeaderPart.label : HeaderPart → String
  | .magic => "magic"
  | .version => "version"
  | .byteOrder => "byte order tag"
  | .timestampSizes => "timestamp sizes"
  | .flags => "flags"
  | .time => "header time"
  | .nameLength => "name length"
  | .name => "name"

/-- Why bytes are not a log. -/
inductive LogFault
  | truncated (part : HeaderPart)
  | notALog
  | version (found : Nat)
  | byteOrder (found : Nat)
  | timestampSizes (seconds nanoseconds : Nat)
  | headerTime (error : TimeError)
  | nameLength (found : Nat)
  | nameNotUtf8
  | sampleTime (error : TimeError)
  | sampleOrder
  | partialRecord (bytes : Nat)
  | other (text : String)
deriving DecidableEq, Repr

def LogFault.message : LogFault → String
  | .truncated part => "truncated " ++ part.label
  | .notALog => "not a task statistics log"
  | .version found => "unsupported version " ++ Decimal.text found
  | .byteOrder found =>
    "byte order tag 0x" ++ String.ofList (Text.hexDigits 8 found) ++ " does not match this host"
  | .timestampSizes seconds nanoseconds =>
    "timestamp fields are " ++ Decimal.text seconds ++ "+" ++ Decimal.text nanoseconds
      ++ " bytes, this host uses 8+8"
  | .headerTime error => "header time: " ++ error.message
  | .nameLength found => "name length " ++ Decimal.text found
  | .nameNotUtf8 => "task name is not UTF-8"
  | .sampleTime error => "sample time: " ++ error.message
  | .sampleOrder => "sample finishes before it starts"
  | .partialRecord bytes => "trailing partial record of " ++ Decimal.text bytes ++ " bytes"
  | .other text => text

/-- Why a calibration or a measurement came to nothing. -/
inductive CalibrationFault
  | zeroElapsed
  | tooFast (iterations : Nat) (elapsed : Time)
  | notConverged (tolerance target : Time) (passes : Nat)
  | roundIncomplete
  | other (text : String)
deriving DecidableEq

def CalibrationFault.message : CalibrationFault → String
  | .zeroElapsed => "busyloop measured zero elapsed time"
  | .tooFast iterations elapsed =>
    Decimal.text iterations ++ " iterations took only " ++ elapsed.text ++ "s"
  | .notConverged tolerance target passes =>
    "no iteration count within " ++ tolerance.text ++ "s of " ++ target.text ++ "s after "
      ++ Decimal.text passes ++ " passes"
  | .roundIncomplete => "overhead round did not run two jobs"
  | .other text => text

/-- What ends a thread on the spot. -/
inductive Abort
  /-- A product does not fit 128 bits. -/
  | wideProduct
  /-- A thread's name holds a NUL character. -/
  | nulInThreadName
deriving DecidableEq, Repr

/-- What can go wrong. -/
inductive Error
  /-- A real-time scheduling class or an affinity is not for the caller. -/
  | privilege (cause : IoError)
  | calibration (fault : CalibrationFault)
  | tooShort (requested minimum : Time)
  | tooLong (requested maximum : Time)
  /-- A worst-case execution time does not exceed the overheads. -/
  | budget (wcet overhead : Time)
  | io (cause : IoError)
  | corruptLog (fault : LogFault)
  | underflow
  | overflow
  | argument (fault : ArgumentFault)
  | json (fault : Json.Fault)
  | aborted (abort : Abort)
deriving DecidableEq

namespace Error

def message : Error → String
  | .privilege cause => "Insufficient privilege for real-time scheduling: " ++ cause.message
  | .calibration fault => "Calibration failed: " ++ fault.message
  | .tooShort requested minimum =>
    "Duration too short: " ++ requested.text ++ "s requested, at least " ++ minimum.text ++ "s required"
  | .tooLong requested maximum =>
    "Duration too long: " ++ requested.text ++ "s requested, at most " ++ maximum.text ++ "s supported"
  | .budget wcet overhead =>
    "Budget too small: WCET " ++ wcet.text ++ "s does not exceed overhead " ++ overhead.text ++ "s"
  | .io cause => "IO error: " ++ cause.message
  | .corruptLog fault => "Corrupt statistics log: " ++ fault.message
  | .underflow => "Time subtraction underflow"
  | .overflow => "Time value overflow"
  | .argument fault => "Invalid argument: " ++ fault.message
  | .json fault => "Serde error: " ++ fault.message?.getD "malformed text"
  | .aborted _ => "aborted"

/-- A time computation that failed as an error of its own. -/
def ofTime : TimeError → Error
  | .underflow => .underflow
  | .overflow => .overflow
  | .malformed fault => .argument (.notATime fault)

/-- A refusal by a scheduling call: lack of a right is told apart. -/
def ofScheduling (cause : IoError) : Error := if cause.isPermission then .privilege cause else .io cause

/-- Another error stands behind this one. -/
def hasCause : Error → Bool
  | .privilege _ => true
  | .io _ => true
  | .json _ => true
  | _ => false

/-- It is an abort and not an error to report. -/
def isAbort : Error → Bool
  | .aborted _ => true
  | _ => false

end Error

/-- The result of something that can go wrong. -/
abbrev Result (α : Type) := Except Error α

/-- The result of a time computation. -/
def Result.ofTime {α : Type} : Except TimeError α → Result α
  | .ok a => .ok a
  | .error e => .error (.ofTime e)

theorem Result.ofTime_eq_ok_iff {α : Type} {answer : Except TimeError α} {a : α} :
    Result.ofTime answer = .ok a ↔ answer = .ok a := by
  cases answer <;> simp [Result.ofTime]

/-- Errors of times stay apart. -/
theorem Result.ofTime_eq_error_iff {α : Type} {answer : Except TimeError α} {e : TimeError} :
    Result.ofTime answer = .error (.ofTime e) ↔ answer = .error e := by
  cases answer with
  | ok a => simp [Result.ofTime]
  | error e' => cases e <;> cases e' <;> simp [Result.ofTime, Error.ofTime]

theorem Result.ofTime_of_toNanos {n : Nat} {t : Time} (time : t.toNanos = n) :
    Result.ofTime (Time.ofNanos? n) = .ok t := by
  rw [Time.ofNanos?_eq_ok.2 time]
  rfl

end TaskTiming
