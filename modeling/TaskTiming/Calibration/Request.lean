import TaskTiming.Time.Arith
import TaskTiming.Error

/-!
# Requests for a calibration

A calibration looks for the number of loop rounds that keep a CPU busy for a target duration, to within
a tolerance. The targets it takes on form one interval.
-/

namespace TaskTiming.Calibration
set_option autoImplicit false

structure Request where
  cpu : UInt64
  target : Time
  tolerance : Time
  maxPasses : UInt32
deriving DecidableEq

/-- The number of passes unless another one is asked for. -/
def defaultPasses : UInt32 := 64

/-- The shortest target that stands out from the overhead of the loop and the clock. -/
def minTarget : Time := .ofMicros 10

/-- The longest target. -/
def maxTarget : Time := .ofSecs 60

/-- How long one calibration may spin, at its target in every pass. -/
def maxTotal : Time := .ofSecs 600

/-- Refuses a request whose target is not above its tolerance, not measurable, or too long for all
passes together. -/
def Request.validate (r : Request) : Result Unit :=
  if r.tolerance.isZero then .error (.argument .toleranceZero)
  else if r.maxPasses = 0 then .error (.argument .passesZero)
  else if r.target < minTarget ∨ r.target ≤ r.tolerance then
    .error (.tooShort r.target (Max.max minTarget (r.tolerance + .ofNanos 1)))
  else if maxTarget < r.target then .error (.tooLong r.target maxTarget)
  else do
    let total ← Result.ofTime (r.target.mul? (r.maxPasses.toUInt64 + 1))
    if maxTotal < total then
      let limit ← Result.ofTime (Time.ofNanos? (maxTotal.toNanos / (r.maxPasses.toNat + 1)))
      .error (.tooLong r.target limit)

end TaskTiming.Calibration
