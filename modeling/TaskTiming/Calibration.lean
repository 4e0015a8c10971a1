import TaskTiming.Calibration.Search
import TaskTiming.Cpu.Scheduling
import TaskTiming.Cpu.Frequency

/-!
# Calibrations

The outcome of a calibration: a number of loop rounds that keeps one CPU busy for a known time. Other
durations are scaled from it in proportion.
-/

namespace TaskTiming
set_option autoImplicit false

structure Calibration where
  cpu : UInt64
  /-- The frequency of the CPU at the time, where it was known. -/
  frequency : Option UInt64
  iterations : UInt64
  target : Time
  tolerance : Time
deriving DecidableEq

namespace Calibration

/-- Searches on a thread bound to the CPU at the highest priority. -/
def run {σ : Type} (host : Host) (r : Request) (m : Meter σ) : Result Calibration := do
  r.validate
  let iterations ← (← host.runPinned r.cpu fun _ => (search r m).1)
  return {
    cpu := r.cpu, frequency := host.frequency r.cpu, iterations, target := r.target
    tolerance := r.tolerance }

/-- The calibration for another duration, rounds and tolerance in proportion. -/
def scaledTo (c : Calibration) (target : Time) : Result Calibration :=
  if target.isZero then .error (.tooShort target (.ofNanos 1))
  else do
    let iterations ← rescale c.iterations target c.target
    match Word.mulWide? c.tolerance.toNanos target.toNanos with
    | none => .error (.aborted .wideProduct)
    | some product =>
      let tolerance ← Result.ofTime (Time.ofNanos? (product / c.target.toNanos))
      return { c with iterations, target, tolerance }

/-- Whether the CPU still runs at the frequency of the calibration, to within so many millionths;
unknown where one of the two frequencies is. -/
def isFresh (host : Host) (c : Calibration) (ppm : UInt64) : Option Bool := do
  let calibrated ← c.frequency
  let now ← host.frequency c.cpu
  return Frequency.within calibrated now ppm

end Calibration

end TaskTiming
