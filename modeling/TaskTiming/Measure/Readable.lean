import TaskTiming.Measure
import TaskTiming.Decimal.Fixed

/-!
# Readable durations

A duration in seconds is shown with three places in the largest unit of which it holds at least one,
nanoseconds at the least.
-/

namespace TaskTiming
set_option autoImplicit false

/-- The units in which durations are shown. -/
inductive TimeUnit
  | hours
  | minutes
  | seconds
  | millis
  | micros
  | nanos
deriving DecidableEq, Repr

/-- The unit behind a number; seconds are set off by a blank to the width of the others. -/
def TimeUnit.label : TimeUnit → String
  | .hours => "h"
  | .minutes => "m"
  | .seconds => " s"
  | .millis => "ms"
  | .micros => "us"
  | .nanos => "ns"

/-- A number of seconds as a number of the unit that suits it. What is no number is shown in
nanoseconds. -/
def readable (seconds : Float) : Float × TimeUnit :=
  if seconds ≥ 3600.0 then (seconds / 3600.0, .hours)
  else if seconds ≥ 60.0 then (seconds / 60.0, .minutes)
  else if seconds ≥ 1.0 then (seconds, .seconds)
  else if seconds ≥ 1e-3 then (seconds * 1e3, .millis)
  else if seconds ≥ 1e-6 then (seconds * 1e6, .micros)
  else (seconds * 1e9, .nanos)

/-- A double with three places. -/
def threePlaces (x : Float) : String := Decimal.fixed 3 (.ofBits x.toBits)

def readableText (seconds : Float) : String :=
  let (x, unit) := readable seconds
  threePlaces x ++ " " ++ unit.label

def Time.readableText (t : Time) : String := TaskTiming.readableText t.toFloat

/-- The count, the mean, the deviation and the range of the values. -/
def Measure.text (m : Measure) : String :=
  "n=" ++ Decimal.text m.count.toNat ++ " avg=" ++ TaskTiming.readableText m.average ++ " dev="
    ++ TaskTiming.readableText m.deviation ++ " min=" ++ m.least.readableText ++ " max="
    ++ m.greatest.readableText

end TaskTiming
