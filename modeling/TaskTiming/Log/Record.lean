import TaskTiming.Sample
import TaskTiming.Bytes
import TaskTiming.Time.Packed
import TaskTiming.Error

/-!
# Log records

A sample is logged as its start and its finish, each with eight bytes of seconds and eight of
nanoseconds, signed and little-endian.
-/

namespace TaskTiming.Log
set_option autoImplicit false

/-- The length of a record. -/
def recordSize : Nat := 32

/-- An instant as sixteen bytes. -/
def encodeInstant (t : Time) : Result (List UInt8) :=
  match t.toNative with
  | .ok native => .ok (Bytes.ofInt64 native.sec ++ Bytes.ofInt64 native.nsec)
  | .error e => .error (.ofTime e)

/-- The instant in sixteen bytes. -/
def decodeInstant (bytes : List UInt8) : Result Time :=
  match Time.ofNative ⟨Bytes.int64 (bytes.take 8), Bytes.int64 (bytes.drop 8)⟩ with
  | .ok t => .ok t
  | .error e => .error (.corruptLog (.sampleTime e))

/-- A record's bytes, if the seconds of both instants are signed words. -/
def encodeSample (s : Sample) : Result (List UInt8) := do
  return (← encodeInstant s.start) ++ (← encodeInstant s.finish)

/-- The sample in a record's bytes. -/
def decodeSample (bytes : List UInt8) : Result Sample := do
  let start ← decodeInstant (bytes.take 16)
  let finish ← decodeInstant (bytes.drop 16)
  if finish < start then .error (.corruptLog .sampleOrder) else .ok { start, finish }

end TaskTiming.Log
