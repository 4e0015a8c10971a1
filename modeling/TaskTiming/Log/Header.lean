import TaskTiming.Bytes
import TaskTiming.Time.Packed
import TaskTiming.Overheads
import TaskTiming.ReleaseKind

/-!
# Log headers

A log begins with what is fixed about its task: four bytes of magic, the version, the byte order, the
two widths of a timestamp, two flags, seven times as pairs of 32-bit words, and the name with its
length in front. All numbers are little-endian.
-/

namespace TaskTiming.Log
set_option autoImplicit false

/-- What a log says about its task. -/
structure Header where
  name : String
  release : ReleaseKind
  statsDisabled : Bool
  wcet : Time
  period : Time
  deadline : Time
  t0 : Time
  offset : Time
  overheads : Overheads
deriving DecidableEq

/-- The letters `RTJS`. -/
def magic : List UInt8 := [0x52, 0x54, 0x4A, 0x53]

def version : UInt8 := 1

/-- A number whose bytes show their order. -/
def byteOrderTag : Nat := 0x01020304

/-- The width of the seconds of a timestamp. -/
def secWidth : Nat := 8

/-- The width of the nanoseconds of a timestamp. -/
def nsecWidth : Nat := 8

/-- The longest name, in bytes. -/
def maxNameLength : Nat := 4096

/-- A time as two words of four bytes. -/
def encodeTime (t : Time) : Result (List UInt8) :=
  match t.toWords32 with
  | .ok (sec, nsec) => .ok (Bytes.ofNat 4 sec.toNat ++ Bytes.ofNat 4 nsec.toNat)
  | .error e => .error (.ofTime e)

/-- Times one after the other. -/
def encodeTimes : List Time → Result (List UInt8)
  | [] => .ok []
  | t :: rest => do return (← encodeTime t) ++ (← encodeTimes rest)

/-- The bytes of a flag. -/
def flagByte (b : Bool) : UInt8 := if b then 1 else 0

namespace Header

/-- The times of a header in the order of the file. -/
def times (h : Header) : List Time :=
  [h.wcet, h.period, h.deadline, h.t0, h.offset, h.overheads.jobStats, h.overheads.finishToStart]

def nameBytes (h : Header) : List UInt8 := h.name.toUTF8.toList

/-- What comes before the times. -/
def preamble (h : Header) : List UInt8 :=
  magic ++ [version] ++ Bytes.ofNat 4 byteOrderTag
    ++ [UInt8.ofNat secWidth, UInt8.ofNat nsecWidth, flagByte (h.release = .periodic),
      flagByte h.statsDisabled]

/-- The bytes of a header, if its name is short enough and its times fit. -/
def encode (h : Header) : Result (List UInt8) :=
  if maxNameLength < h.nameBytes.length then .error (.argument .nameTooLong)
  else do
    let times ← encodeTimes h.times
    return h.preamble ++ times ++ Bytes.ofNat 4 h.nameBytes.length ++ h.nameBytes

end Header

end TaskTiming.Log
