import TaskTiming.Ring
import TaskTiming.Sample.Array

/-!
# Sinks for samples

Where the samples of a task's jobs go. Without a sink no sample is taken, and the clock is not read.
-/

namespace TaskTiming
set_option autoImplicit false

inductive Sink
  | none
  | ring (r : Ring)
  | array (limit : Nat) (a : SampleArray limit)
  | list (samples : List Sample)

namespace Sink

/-- Samples are wanted. -/
def isSampling : Sink → Bool
  | .none => false
  | _ => true

def record (s : Sample) : Sink → Sink
  | .none => .none
  | .ring r => .ring (r.record s).1
  | .array limit a => .array limit (a.record s)
  | .list samples => .list (samples ++ [s])

/-- Samples are wanted to the end, or never. -/
theorem isSampling_record (s : Sample) (k : Sink) : (k.record s).isSampling = k.isSampling := by
  cases k <;> rfl

/-- The samples that were kept, oldest first. -/
def kept : Sink → List Sample
  | .none => []
  | .ring r => r.samples
  | .array _ a => a.samples
  | .list samples => samples

/-- The ring, if the sink is one. -/
def ring? : Sink → Option Ring
  | .ring r => some r
  | _ => Option.none

end Sink

/-- Offers the samples of a ring to a sink, oldest first; the answer is how many there were. -/
def Ring.flush (r : Ring) (k : Sink) : Sink × Nat :=
  r.samples.foldl (fun (k, flushed) s => (k.record s, flushed + 1)) (k, 0)

end TaskTiming
