import TaskTiming.Task.Action

/-!
# Waiting for a release

A wait looks at the cancel flag, sleeps until the cancellation or the releases can be consumed, and
then takes one release; it starts over when it was interrupted or finds nothing to take.
-/

namespace TaskTiming
set_option autoImplicit false

/-- Where a wait stands. -/
inductive Wait
  /-- About to look at the cancel flag. -/
  | look
  /-- Asleep until something is readable. -/
  | asleep
  /-- About to take a release. -/
  | take
  | done (outcome : WaitOutcome)
deriving DecidableEq, Repr

namespace Wait

/-- The next step of a wait, if it can take one: nothing readable keeps it asleep, and an interruption
wakes it all the same. -/
def step (cancel : CancelToken) (releases : EventCounter) (interrupted : Bool) :
    Wait → Option (Wait × EventCounter)
  | .look => some (if cancel.cancelled then .done .cancelled else .asleep, releases)
  | .asleep =>
    if interrupted then some (.look, releases)
    else if cancel.signals.isReadable then some (.done .cancelled, releases)
    else if releases.isReadable then some (.take, releases)
    else none
  | .take =>
    let (taken, releases) := releases.consume
    some (if 0 < taken then .done .released else .look, releases)
  | .done _ => none

/-- Runs a wait that nobody interferes with to its end, if it comes to one. -/
def run (cancel : CancelToken) (releases : EventCounter) : Option (WaitOutcome × EventCounter) :=
  if cancel.cancelled then some (.cancelled, releases)
  else if cancel.signals.isReadable then some (.cancelled, releases)
  else if releases.isReadable then some (.released, releases.consume.2)
  else none

end Wait

end TaskTiming
