import TaskTiming.Task.State
import TaskTiming.Release.EventCounter

/-!
# The control of a task

What a task's thread and its handle share. Every access to it is one atomic step.
-/

namespace TaskTiming
set_option autoImplicit false

structure Control where
  /-- A stop was asked for. -/
  stopped : Bool
  /-- The thread is about to wait for a release, or waits. -/
  inWait : Bool
  /-- The thread is through. -/
  finished : Bool
  state : TaskState
  cancel : CancelToken
deriving DecidableEq, Repr

namespace Control

def new : Control :=
  { stopped := false, inWait := false, finished := false, state := .created, cancel := .new }

def advance (c : Control) (s : TaskState) : Control := { c with state := c.state.advance s }

end Control

end TaskTiming
