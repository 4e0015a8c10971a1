import TaskTiming.Task.Live
import TaskTiming.World

/-!
# Rehearsals

A loop or a thread is run against a script: what each job does, and how each wait for a release ends. No
time is spent; a sleep ends at once, with the clock moved to its instant. What a job or a wait sees of the
task's control is kept.
-/

namespace TaskTiming
set_option autoImplicit false

namespace Rehearsal

/-- What a job does. -/
inductive JobCue
  | ok
  | fail
  | panic
  /-- Somebody stops the task while the job runs. -/
  | stop
deriving DecidableEq, Repr

/-- How a wait ends. -/
inductive WaitCue
  | released
  | cancelled
  | fail
  /-- The `stopped` flag is raised, and then a release comes. -/
  | flagged
  /-- Somebody stops the task, and there is no release. -/
  | stop
deriving DecidableEq, Repr

structure Script where
  /-- What the jobs do, one after the other; all others are fine. -/
  jobs : List JobCue
  /-- How the waits end, one after the other, and all others by cancellation; or real waits. -/
  waits : Option (List WaitCue)
  /-- The task is stopped by a call like this one, or by its flags alone. -/
  stopper : Option StopCall
  /-- Jobs are seen. -/
  visible : Bool

/-- When a control is looked at. -/
inductive Moment
  | admission
  | wait (k : Nat)
  | job (k : Nat)
  | jobEnd (k : Nat)
deriving DecidableEq, Repr

/-- What is seen of a control. -/
structure Glimpse where
  moment : Moment
  state : TaskState
  stopped : Bool
  inWait : Bool
deriving DecidableEq, Repr

end Rehearsal

open Rehearsal

structure Rehearsal (σ : Type) where
  script : Script
  live : Live σ
  world : World
  /-- The jobs started and the waits begun. -/
  jobs : Nat
  waits : Nat
  seen : List Glimpse

namespace Rehearsal

variable {σ : Type}

def start (script : Script) (live : Live σ) (world : World) : Rehearsal σ :=
  { script, live, world, jobs := 0, waits := 0, seen := [] }

def see (r : Rehearsal σ) (moment : Moment) : Rehearsal σ :=
  let c := r.live.control
  { r with seen := r.seen ++ [⟨moment, c.state, c.stopped, c.inWait⟩] }

/-- Runs a call to stop the task until it returns or pauses. -/
def stopFor : Nat → Rehearsal σ → StopCall → Rehearsal σ
  | 0, r, _ => r
  | fuel + 1, r, call =>
    match r.live.stopTurn call with
    | .go (live, call) => stopFor fuel { r with live } call
    | _ => r

/-- The most steps that a call takes before it returns or pauses. -/
def stopSteps : Nat := 8

def withControl (r : Rehearsal σ) (f : Control → Control) : Rehearsal σ :=
  { r with live := { r.live with control := f r.live.control } }

/-- Somebody stops the task; without a call to do so, whoever waits is cancelled (`waiting`). -/
def stop (r : Rehearsal σ) (waiting : Bool) : Rehearsal σ :=
  match r.script.stopper with
  | some call => stopFor stopSteps r call
  | none => r.withControl fun c =>
    { c with stopped := true, cancel := if waiting then c.cancel.raise.signal.2 else c.cancel }

/-- The end of the job that runs. -/
def jobEnd (r : Rehearsal σ) : JobEnd × Rehearsal σ :=
  match (r.script.jobs[r.jobs - 1]?).getD .ok with
  | .ok => (.finished (.ok ()), r)
  | .fail =>
    (.finished (.error (.calibration (.other ("job " ++ Decimal.text r.jobs ++ " failed")))), r)
  | .panic => (.panicked, r)
  | .stop => (.finished (.ok ()), (r.stop false).see (.jobEnd r.jobs))

/-- The end of a wait by its cue. -/
def waitEnd (r : Rehearsal σ) : Result WaitOutcome × Rehearsal σ :=
  match ((r.script.waits.getD [])[r.waits - 1]?).getD .cancelled with
  | .released => (.ok .released, r)
  | .cancelled => (.ok .cancelled, r)
  | .fail => (.error (.argument (.other ("wait " ++ Decimal.text r.waits ++ " failed"))), r)
  | .flagged => (.ok .released, r.withControl fun c => { c with stopped := true })
  | .stop => (.ok .cancelled, r.stop true)

/-- The next step, if there is one. -/
def step (next : σ → Action σ) (r : Rehearsal σ) : Option (Rehearsal σ) :=
  let go (r : Rehearsal σ) (machine : σ) : Rehearsal σ :=
    { r with live := { r.live with machine } }
  match next r.live.machine with
  | .idle => none
  | .access effect =>
    let (machine, control) := effect r.live.control
    some { r with live := { r.live with machine, control } }
  | .readClock next => some (go r (next (.ok r.world.clock)))
  | .finishJob next =>
    let (outcome, r) := r.jobEnd
    some (go r (next outcome))
  | .awaitRelease next =>
    match r.script.waits with
    | some _ =>
      let (outcome, r) := ({ r with waits := r.waits + 1 }.see (.wait (r.waits + 1))).waitEnd
      some (go r (next outcome))
    | none =>
      match Wait.run r.live.control.cancel r.live.releases with
      | some (outcome, releases) =>
        some (go { r with live := { r.live with releases } } (next (.ok outcome)))
      | none => none
  | .ask (.sleepUntil instant) next =>
    some (go { r with world := { r.world with clock := Max.max r.world.clock instant } } (next (.ok ())))
  | .ask .startJob next =>
    let r := { r with jobs := r.jobs + 1 }
    some (go (if r.script.visible then r.see (.job r.jobs) else r) (next (.ok ())))
  | .ask request next =>
    let r := match request with
      | .enter _ => r.see .admission
      | _ => r
    match r.world.answer 0 request with
    | .answered outcome world => some (go { r with world } (next outcome))
    | .later _ => none

/-- Runs to the end, or for as many steps as there is fuel. -/
def run (next : σ → Action σ) : Nat → Rehearsal σ → Rehearsal σ
  | 0, r => r
  | fuel + 1, r =>
    match r.step next with
    | some r => run next fuel r
    | none => r

end Rehearsal

end TaskTiming
