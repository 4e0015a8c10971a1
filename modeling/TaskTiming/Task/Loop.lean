import TaskTiming.Task.Action
import TaskTiming.Task.Sink
import TaskTiming.Time.Packed

/-!
# The job loops

A periodic task runs a job at each of the instants first, first + period, first + 2 * period and so on,
however long its jobs take; an aperiodic task runs one for each release. The jobs of both are bracketed
by two readings of the clock when samples are wanted. A stop is looked for after each job, behind the
limit on jobs, and by an aperiodic task also before it waits; it raises its `inWait` flag before that
look and lowers it before it examines how the wait ended, so whoever sees the flag can cancel the wait
and never disturbs a job.
-/

namespace TaskTiming
set_option autoImplicit false

/-- An instant as the system's sleep takes it. -/
def sleepTarget (t : Time) : Result Time.Native :=
  match t.toNative with
  | .ok native => .ok native
  | .error _ => .error (.io .invalidInput)

/-- What releases the jobs. -/
inductive Pace
  | periodic (period : Time)
  | aperiodic
deriving DecidableEq

/-- Where a loop stands. -/
inductive Loop.Spot
  /-- About to sleep until the release. -/
  | sleep
  /-- The first job is due. -/
  | enter
  /-- About to raise the `inWait` flag. -/
  | raise
  /-- About to look for a stop, the flag raised. -/
  | look
  /-- A stop was seen, the flag still raised. -/
  | retreat
  /-- Waiting for a release. -/
  | wait
  /-- The wait is over, the flag still raised. -/
  | lower (outcome : Result WaitOutcome)
  /-- About to read the clock for the start of a job. -/
  | clockIn
  /-- About to start a job. -/
  | job (start : Time)
  /-- The job runs. -/
  | working (start : Time)
  /-- About to read the clock for the finish of a job. -/
  | clockOut (start : Time)
  /-- A job is done; about to look for a stop. -/
  | check
  | ended (outcome : Result Nat)
  | panicked

structure Loop where
  pace : Pace
  maxJobs : Option UInt64
  sink : Sink
  /-- The jobs that succeeded. -/
  jobs : Nat
  /-- The present release of a periodic task. -/
  release : Time
  spot : Loop.Spot

namespace Loop

/-- Goes to sleep until a release, if the system can sleep until then. -/
def sleepTo (l : Loop) (release : Time) : Loop :=
  match sleepTarget release with
  | .ok _ => { l with release, spot := .sleep }
  | .error e => { l with release, spot := .ended (.error e) }

/-- A loop at its start: a periodic one about to sleep until its first release. -/
def periodic (first period : Time) (maxJobs : Option UInt64) (sink : Sink) : Loop :=
  sleepTo {
    pace := .periodic period, maxJobs, sink, jobs := 0, release := first, spot := .sleep } first

def aperiodic (maxJobs : Option UInt64) (sink : Sink) : Loop :=
  { pace := .aperiodic, maxJobs, sink, jobs := 0, release := .zero, spot := .raise }

/-- To the next job, by way of the clock if samples are wanted. -/
def toJob (l : Loop) : Loop :=
  { l with spot := if l.sink.isSampling then .clockIn else .job .zero }

/-- To the first job by way of the state, to the others directly. -/
def released (l : Loop) : Loop := if l.jobs = 0 then { l with spot := .enter } else l.toJob

def limitReached (l : Loop) : Bool :=
  match l.maxJobs with
  | some max => decide (max.toNat ≤ l.jobs)
  | none => false

/-- One more job is done. -/
def jobDone (l : Loop) : Loop :=
  let l := { l with jobs := l.jobs + 1 }
  { l with spot := if l.limitReached then .ended (.ok l.jobs) else .check }

/-- To the next release. -/
def again (l : Loop) : Loop :=
  match l.pace with
  | .periodic period =>
    match l.release.add? period with
    | .ok release => l.sleepTo release
    | .error e => { l with spot := .ended (.error (.ofTime e)) }
  | .aperiodic => { l with spot := .raise }

def fail (l : Loop) (e : Error) : Loop := { l with spot := .ended (.error e) }

/-- The next step of a loop. -/
def next (l : Loop) : Action Loop :=
  match l.spot with
  | .sleep => .ask (.sleepUntil l.release) fun
    | .ok () => l.released
    | .error e => l.fail e
  | .enter => .advance .running l.toJob
  | .raise => .setInWait true { l with spot := .look }
  | .look => .loadStopped fun stop => { l with spot := if stop then .retreat else .wait }
  | .retreat => .setInWait false { l with spot := .ended (.ok l.jobs) }
  | .wait => .awaitRelease fun outcome => { l with spot := .lower outcome }
  | .lower outcome =>
    .setInWait false <| match outcome with
      | .ok .released => l.released
      | .ok .cancelled => { l with spot := .ended (.ok l.jobs) }
      | .error e => l.fail e
  | .clockIn => .readClock fun
    | .ok start => { l with spot := .job start }
    | .error e => l.fail e
  | .job start => .ask .startJob fun _ => { l with spot := .working start }
  | .working start => .finishJob fun
    | .finished (.ok ()) =>
      if l.sink.isSampling then { l with spot := .clockOut start } else l.jobDone
    | .finished (.error e) => l.fail e
    | .panicked => { l with spot := .panicked }
  | .clockOut start => .readClock fun
    | .ok finish => { l with sink := l.sink.record { start, finish } }.jobDone
    | .error e => l.fail e
  | .check => .loadStopped fun stop => if stop then { l with spot := .ended (.ok l.jobs) } else l.again
  | .ended _ => .idle
  | .panicked => .idle

/-- How the loop ended, if it has and its thread goes on. -/
def outcome? (l : Loop) : Option (Result Nat) :=
  match l.spot with
  | .ended outcome => some outcome
  | _ => none

/-- A job is running. -/
def isWorking (l : Loop) : Bool :=
  match l.spot with
  | .working _ => true
  | _ => false

end Loop

end TaskTiming
