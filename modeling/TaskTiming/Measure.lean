import TaskTiming.Time.Arith

/-!
# Running statistics over times

The mean and the sum of squared deviations of a stream of durations are kept in doubles, updated value
by value; the least, the greatest and the total duration and the count are kept exactly, the total up
to the longest time.
-/

namespace TaskTiming
set_option autoImplicit false

/-- Statistics over the values seen so far. -/
structure Measure where
  average : Float
  sumOfSquares : Float
  least : Time
  greatest : Time
  total : Time
  count : UInt64
deriving Inhabited

namespace Measure

/-- Nothing seen yet. -/
def empty : Measure :=
  { average := 0.0, sumOfSquares := 0.0, least := .zero, greatest := .zero, total := .zero, count := 0 }

/-- The first value replaces everything; the others move the mean by their share of the distance to
it. A full count takes no further value. -/
def record (m : Measure) (value : Time) : Measure :=
  let x := value.toFloat
  if m.count = 0 then
    { average := x, sumOfSquares := 0.0, least := value, greatest := value, total := value, count := 1 }
  else if m.count = Word.max64 then m
  else
    let count := m.count + 1
    let delta := x - m.average
    let average := m.average + delta / count.toFloat
    let delta2 := x - average
    { average
      sumOfSquares := m.sumOfSquares + delta * delta2
      least := min m.least value
      greatest := Max.max m.greatest value
      total := m.total + value
      count }

def recordAll (m : Measure) (values : List Time) : Measure := values.foldl record m

def variance (m : Measure) : Float :=
  if m.count = 0 then 0.0 else m.sumOfSquares / m.count.toFloat

def deviation (m : Measure) : Float := m.variance.sqrt

end Measure

end TaskTiming
