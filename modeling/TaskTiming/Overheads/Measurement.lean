import TaskTiming.Overheads
import TaskTiming.ReleaseKind
import TaskTiming.Sample.Array
import TaskTiming.Cpu.Scheduling

/-!
# Measuring overheads

Overheads are measured in rounds on a bound thread at the highest priority, and the worst round
counts. In each round an empty job takes its own sample, and two empty jobs run back to back although
both are due.
-/

namespace TaskTiming.Overheads
set_option autoImplicit false

/-- What the rounds of a measurement observe. -/
structure Bench where
  /-- The sample of one empty job. -/
  sampled : Nat → Sample
  /-- The instant for which two jobs are released, and the samples of the round. -/
  backToBack : ReleaseKind → Nat → Time × SampleArray 2

/-- How late the first of two jobs started, and how long it took from its finish to the start of the
second. -/
def backToBackOverhead (intended : Time) (round : SampleArray 2) : Result Time :=
  match round.samples with
  | [first, second] => do
    let latency ← Result.ofTime (first.start.sub? intended)
    let gap ← Result.ofTime (second.start.sub? first.finish)
    Result.ofTime (latency.add? gap)
  | _ => .error (.calibration .roundIncomplete)

def checkRounds (rounds : UInt32) : Result Unit :=
  if rounds = 0 then .error (.argument .noRounds) else .ok ()

/-- The worst cost of taking a sample. -/
def measureJobStats (host : Host) (bench : Bench) (cpu : UInt64) (rounds : UInt32) : Result Time := do
  checkRounds rounds
  host.runPinned cpu fun _ =>
    (List.range rounds.toNat).foldl (fun worst i => Max.max worst (bench.sampled i).responseTime) .zero

/-- The worst way from the finish of a job to the start of the next. -/
def measureFinishToStart (host : Host) (bench : Bench) (cpu : UInt64) (release : ReleaseKind)
    (rounds : UInt32) : Result Time := do
  checkRounds rounds
  (← host.runPinned cpu fun _ =>
    (List.range rounds.toNat).foldlM (fun worst i =>
      let (intended, round) := bench.backToBack release i
      (backToBackOverhead intended round).map (Max.max worst)) Time.zero)

def measure (host : Host) (bench : Bench) (cpu : UInt64) (release : ReleaseKind) (rounds : UInt32) :
    Result Overheads := do
  return {
    jobStats := ← measureJobStats host bench cpu rounds
    finishToStart := ← measureFinishToStart host bench cpu release rounds }

/-- The number of rounds unless another one is asked for. -/
def defaultRounds : UInt32 := 1000

end TaskTiming.Overheads
