/-!
# Kinds of release

The jobs of a periodic task are released by the clock, those of an aperiodic task by events.
-/

namespace TaskTiming
set_option autoImplicit false

inductive ReleaseKind
  | periodic
  | aperiodic
deriving DecidableEq, Repr

/-- The name in reports. -/
def ReleaseKind.label : ReleaseKind → String
  | .periodic => "Periodic"
  | .aperiodic => "Aperiodic"

/-- The name in files. -/
def ReleaseKind.word : ReleaseKind → String
  | .periodic => "periodic"
  | .aperiodic => "aperiodic"

end TaskTiming
