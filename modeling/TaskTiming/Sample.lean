import TaskTiming.Time.Arith

/-!
# Job samples

When a job started and when it finished.
-/

namespace TaskTiming
set_option autoImplicit false

/-- The start and the finish of one job. -/
structure Sample where
  start : Time
  finish : Time
deriving DecidableEq, Inhabited

/-- The time from start to finish, zero if the finish lies before the start. -/
def Sample.responseTime (s : Sample) : Time := s.finish.subClamped s.start

/-- Samples do not finish before they start, nor start before the one before them finished. -/
def Sample.ordered : List Sample → Bool
  | [] => true
  | [s] => decide (s.start ≤ s.finish)
  | s :: t :: rest =>
    decide (s.start ≤ s.finish) && decide (s.finish ≤ t.start) && Sample.ordered (t :: rest)

end TaskTiming
