import TaskTiming.Log.Header
import TaskTiming.Log.Record
import TaskTiming.Ring
import TaskTiming.Disk

/-!
# Writing logs

A log is written header first, then one record for each sample. A sample that cannot be written leaves
the log as it is.
-/

namespace TaskTiming.Log
set_option autoImplicit false

/-- A log being written: its bytes so far, and the number of records among them. -/
structure Writer where
  bytes : List UInt8
  samples : Nat
deriving DecidableEq

namespace Writer

/-- A log with its header, if there is one for it. -/
def new (h : Header) : Result Writer := do
  return { bytes := ← h.encode, samples := 0 }

/-- Makes the file of a log at a path. -/
def save (w : Writer) (p : Path) (d : Disk) : Result Unit × Disk :=
  let (outcome, d) := d.createWith p w.bytes
  (outcome.mapError .io, d)

/-- Makes a log and its file. The disk is not touched before there is a header. -/
def create (h : Header) (p : Path) (d : Disk) : Result Writer × Disk :=
  match new h with
  | .error e => (.error e, d)
  | .ok w =>
    let (outcome, d) := w.save p d
    (outcome.map fun _ => w, d)

def append (w : Writer) (s : Sample) : Result Writer := do
  return { bytes := w.bytes ++ (← encodeSample s), samples := w.samples + 1 }

/-- Appends samples up to the first that cannot be written; those before it stay. -/
def appendAll (w : Writer) : List Sample → Except Error Unit × Writer
  | [] => (.ok (), w)
  | s :: rest =>
    match w.append s with
    | .ok w => w.appendAll rest
    | .error e => (.error e, w)

/-- Appends the samples of a ring, oldest first; the answer is their number. -/
def appendRing (w : Writer) (ring : Ring) : Result Nat × Writer :=
  let (outcome, after) := w.appendAll ring.samples
  (outcome.map fun _ => after.samples - w.samples, after)

end Writer

end TaskTiming.Log
