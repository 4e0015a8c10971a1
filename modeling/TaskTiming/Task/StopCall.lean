import TaskTiming.Task.Action
import TaskTiming.ReleaseKind
import TaskTiming.Time.Arith

/-!
# Stopping a task

Whoever stops a task raises its `stopped` flag, which a periodic task sees after its present job. An
aperiodic task may be waiting for a release that never comes, so its wait is cancelled; but only once its
`inWait` flag is seen, or not at all if it has finished. Between two looks the stopper pauses, twice as
long each time, up to the task's worst-case execution time.
-/

namespace TaskTiming
set_option autoImplicit false

/-- Where a call to stop a task stands. -/
inductive StopCall.Spot
  /-- About to raise the `stopped` flag. -/
  | raise
  /-- About to enter `stopped`. -/
  | advance
  /-- About to look whether the thread has finished. -/
  | lookFinished (pause : Time)
  /-- About to look whether the thread waits. -/
  | lookInWait (pause : Time)
  | pausing (pause : Time)
  /-- About to raise the cancel flag. -/
  | cancel
  /-- About to wake the wait. -/
  | signal
  /-- About to note that the wait could not be woken. -/
  | complaining (cause : IoError)
  | returned
deriving DecidableEq

/-- A call to stop one task. -/
structure StopCall where
  name : String
  release : ReleaseKind
  wcet : Time
  spot : StopCall.Spot
deriving DecidableEq

namespace StopCall

def start (name : String) (release : ReleaseKind) (wcet : Time) : StopCall :=
  { name, release, wcet, spot := .raise }

/-- The first pause. -/
def firstPause : Time := .ofMicros 10

/-- The longest pause. -/
def longestPause (call : StopCall) : Time := Max.max call.wcet firstPause

/-- The pause after one: twice as long, up to the longest. -/
def nextPause (call : StopCall) (pause : Time) : Time := min (pause + pause) call.longestPause

/-- The note that the wait could not be woken. -/
def failureLine (call : StopCall) (cause : IoError) : LogLine :=
  ⟨.error, "Task " ++ call.name ++ ": failed to cancel release wait: " ++ cause.message⟩

/-- The next step of a call. -/
def next (call : StopCall) : Action StopCall :=
  match call.spot with
  | .raise => .raiseStop { call with spot := .advance }
  | .advance =>
    .advance .stopped <| match call.release with
      | .periodic => { call with spot := .returned }
      | .aperiodic => { call with spot := .lookFinished firstPause }
  | .lookFinished pause => .loadFinished fun finished =>
    { call with spot := if finished then .returned else .lookInWait pause }
  | .lookInWait pause => .loadInWait fun inWait =>
    { call with spot := if inWait then .cancel else .pausing pause }
  | .pausing pause => .ask (.pause pause) fun _ => { call with spot := .lookFinished (call.nextPause pause) }
  | .cancel => .raiseCancel { call with spot := .signal }
  | .signal => .signalCancel fun
    | .ok () => { call with spot := .returned }
    | .error cause => { call with spot := .complaining cause }
  | .complaining cause => .ask (.note (call.failureLine cause)) fun _ => { call with spot := .returned }
  | .returned => .idle

end StopCall

end TaskTiming
