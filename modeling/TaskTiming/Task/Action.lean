import TaskTiming.Task.Control
import TaskTiming.Cpu.Scheduling
import TaskTiming.Path

/-!
# Atomic steps

A thread or a stopper is a state that says which step it takes next and how it goes on with the answer.
A step is either an access to the control of a task, which always succeeds at once, or asks something of
the world: the clock, the system, the job, a release.
-/

namespace TaskTiming
set_option autoImplicit false

/-- How a wait for a release ends. -/
inductive WaitOutcome
  | released
  | cancelled
deriving DecidableEq, Repr

/-- How a job ends. -/
inductive JobEnd
  | finished (outcome : Result Unit)
  /-- The job brings down its thread. -/
  | panicked

inductive LogLevel
  | warn
  | error
deriving DecidableEq, Repr

def LogLevel.label : LogLevel → String
  | .warn => "WARN"
  | .error => "ERROR"

/-- A line of the diary that a program keeps of what it does. -/
structure LogLine where
  level : LogLevel
  text : String
deriving DecidableEq, Repr

/-- What is asked of the world and answered without a value. -/
inductive Request
  /-- To go on no earlier than an instant. -/
  | sleepUntil (instant : Time)
  /-- To go on no earlier than after a while. -/
  | pause (duration : Time)
  /-- To enter a scheduling class. -/
  | enter (admission : Admission)
  /-- To start a thread. -/
  | startThread (name : String)
  | startJob
  /-- To put a line into the diary. -/
  | note (line : LogLine)
  /-- To print a line. -/
  | print (line : String)
  /-- To make an empty file and write its first bytes. -/
  | create (path : Path) (bytes : List UInt8)
  /-- To write further bytes into a file from an offset on. -/
  | write (path : Path) (offset : Nat) (bytes : List UInt8)
  | createDirectories (path : Path)

/-- The next step of something with states `σ` that has a task's control in its reach. -/
inductive Action (σ : Type)
  /-- Nothing is left to do. -/
  | idle
  /-- One access to the control. -/
  | access (effect : Control → σ × Control)
  | ask (request : Request) (next : Result Unit → σ)
  | readClock (next : Result Time → σ)
  | finishJob (next : JobEnd → σ)
  | awaitRelease (next : Result WaitOutcome → σ)

namespace Action

variable {σ τ : Type}

/-- The same step of something larger. -/
def map (f : σ → τ) : Action σ → Action τ
  | .idle => .idle
  | .access effect => .access fun c => ((f (effect c).1), (effect c).2)
  | .ask request next => .ask request fun r => f (next r)
  | .readClock next => .readClock fun r => f (next r)
  | .finishJob next => .finishJob fun r => f (next r)
  | .awaitRelease next => .awaitRelease fun r => f (next r)

/-! ## Accesses to the control -/

def advance (state : TaskState) (next : σ) : Action σ := .access fun c => (next, c.advance state)

def raiseStop (next : σ) : Action σ := .access fun c => (next, { c with stopped := true })

def loadStopped (next : Bool → σ) : Action σ := .access fun c => (next c.stopped, c)

def setInWait (b : Bool) (next : σ) : Action σ := .access fun c => (next, { c with inWait := b })

def loadInWait (next : Bool → σ) : Action σ := .access fun c => (next c.inWait, c)

def setFinished (next : σ) : Action σ := .access fun c => (next, { c with finished := true })

def loadFinished (next : Bool → σ) : Action σ := .access fun c => (next c.finished, c)

def raiseCancel (next : σ) : Action σ :=
  .access fun c => (next, { c with cancel := c.cancel.raise })

def signalCancel (next : Except IoError Unit → σ) : Action σ :=
  .access fun c => (next c.cancel.signal.1, { c with cancel := c.cancel.signal.2 })

end Action

end TaskTiming
