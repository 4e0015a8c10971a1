import TaskTiming.Task.Live

/-!
# Release generators

The releases of an aperiodic task in an experiment come from a generator: one at a first instant, and one
more after each interval, for as long as the experiment runs. Whether it still runs is looked at before
each sleep, so a generator that sleeps ends only behind its pending release.
-/

namespace TaskTiming
set_option autoImplicit false

/-- Where a generator stands. -/
inductive Generator.Spot
  /-- About to look whether the experiment runs. -/
  | look
  /-- About to sleep until the pending release. -/
  | sleep
  /-- About to release a job. -/
  | signal
  /-- About to note why it cannot go on. -/
  | complaining (e : Error)
  | ended
deriving DecidableEq

structure Generator where
  name : String
  /-- The position of its task among those that were started. -/
  task : Nat
  interval : Time
  /-- The pending release. -/
  release : Time
  spot : Generator.Spot
deriving DecidableEq

namespace Generator

/-- The name of the thread that releases a task. -/
def threadName (taskName : String) : String := taskName ++ "-releases"

def start (taskName : String) (task : Nat) (first interval : Time) : Generator :=
  { name := threadName taskName, task, interval, release := first, spot := .look }

/-- The text of what keeps a generator from going on. -/
def causeText : Error → String
  | .io cause => cause.message
  | e => e.message

def failureLine (g : Generator) (e : Error) : LogLine := ⟨.error, g.name ++ ": " ++ causeText e⟩

/-- After the look: on to the pending release, if the system can sleep until then. -/
def looked (g : Generator) (running : Bool) : Generator :=
  if running then
    match sleepTarget g.release with
    | .ok _ => { g with spot := .sleep }
    | .error e => { g with spot := .complaining e }
  else { g with spot := .ended }

/-- After the sleep. -/
def slept (g : Generator) : Result Unit → Generator
  | .ok () => { g with spot := .signal }
  | .error e => { g with spot := .complaining e }

/-- After the release: the next one lies an interval later. -/
def signalled (g : Generator) : Result Unit → Generator
  | .ok () => { g with release := g.release + g.interval, spot := .look }
  | .error e => { g with spot := .complaining e }

end Generator

end TaskTiming
