/-!
# States of a task

A task goes through five states and never back: entering a state behind the present one changes
nothing.
-/

namespace TaskTiming
set_option autoImplicit false

inductive TaskState
  /-- Its log has a header; its thread has not been admitted. -/
  | created
  /-- Its thread is admitted; the first release is pending. -/
  | released
  /-- Its jobs run. -/
  | running
  /-- It was asked to stop, or its jobs are over. -/
  | stopped
  /-- Its samples are written. -/
  | joined
deriving DecidableEq, Repr

namespace TaskState

def rank : TaskState → Nat
  | .created => 0
  | .released => 1
  | .running => 2
  | .stopped => 3
  | .joined => 4

/-- The state of that rank; beyond the last one, the last. -/
def ofRank : Nat → TaskState
  | 0 => .created
  | 1 => .released
  | 2 => .running
  | 3 => .stopped
  | _ => .joined

/-- The later of the present state and the one entered. -/
def advance (present entered : TaskState) : TaskState :=
  if present.rank < entered.rank then entered else present

theorem rank_advance (s t : TaskState) : (s.advance t).rank = Nat.max s.rank t.rank := by
  cases s <;> cases t <;> rfl

def label : TaskState → String
  | .created => "Created"
  | .released => "Released"
  | .running => "Running"
  | .stopped => "Stopped"
  | .joined => "Joined"

end TaskState

end TaskTiming
