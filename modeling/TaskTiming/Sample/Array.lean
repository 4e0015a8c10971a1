import TaskTiming.Sample

/-!
# Sample arrays

A store for a fixed number of samples that keeps the first ones and drops the others.
-/

namespace TaskTiming
set_option autoImplicit false

structure SampleArray (limit : Nat) where
  samples : List Sample
  length_le : samples.length ≤ limit

namespace SampleArray

variable {limit : Nat}

def empty : SampleArray limit := { samples := [], length_le := Nat.zero_le _ }

def record (a : SampleArray limit) (s : Sample) : SampleArray limit :=
  if h : a.samples.length < limit then
    { samples := a.samples ++ [s], length_le := by simpa using Nat.succ_le_of_lt h }
  else a

def recordAll (a : SampleArray limit) (samples : List Sample) : SampleArray limit :=
  samples.foldl record a

/-- The first samples that were offered are kept. -/
theorem samples_recordAll (a : SampleArray limit) (samples : List Sample) :
    (a.recordAll samples).samples = (a.samples ++ samples).take limit := by
  induction samples generalizing a with
  | nil => simp [recordAll, List.take_of_length_le a.length_le]
  | cons s rest ih =>
    show ((a.record s).recordAll rest).samples = _
    rw [ih, record]
    split
    · simp
    · rename_i h
      have full : a.samples.length = limit := by have := a.length_le; omega
      simp [full]

end SampleArray

end TaskTiming
