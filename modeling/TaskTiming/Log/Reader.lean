import TaskTiming.Log.Header
import TaskTiming.Log.Record
import TaskTiming.Log.Source

/-!
# Reading logs

A log is read from a source: first its header, then one record after the other. Running out of bytes
inside the header or a record means a corrupt log, and the end between two records is the end of the
log; a failing source is neither, unless it says of itself in the header that it ended too early.
-/

namespace TaskTiming.Log
set_option autoImplicit false

/-- What reading a header does with a source. -/
abbrev HeaderReader := StateT Source Result

/-- What a failing source comes to inside a part of the header. -/
def partFailure (part : HeaderPart) (cause : IoError) : Error :=
  if cause.isUnexpectedEof then .corruptLog (.truncated part) else .io cause

/-- Takes exactly `n` bytes for a part of the header. -/
def takePart (part : HeaderPart) (n : Nat) : HeaderReader (List UInt8) := fun source =>
  match source.take n with
  | (.ok taken, source) =>
    if taken.length = n then .ok (taken, source) else .error (.corruptLog (.truncated part))
  | (.error cause, _) => .error (partFailure part cause)

def corrupt {α : Type} (fault : LogFault) : HeaderReader α := fun _ => .error (.corruptLog fault)

/-- Takes a time of the header. -/
def takeTime : HeaderReader Time := do
  let sec := UInt32.ofNat (Bytes.value (← takePart .time 4))
  let nsec := UInt32.ofNat (Bytes.value (← takePart .time 4))
  match Time.ofWords32 sec nsec with
  | .ok t => pure t
  | .error e => corrupt (.headerTime e)

/-- Takes the bytes up to the times, and answers the two flags. -/
def takePreamble : HeaderReader (Bool × Bool) := do
  let letters ← takePart .magic 4
  if letters ≠ magic then corrupt .notALog
  let found := Bytes.value (← takePart .version 1)
  if found ≠ version.toNat then corrupt (.version found)
  let tag := Bytes.value (← takePart .byteOrder 4)
  if tag ≠ byteOrderTag then corrupt (.byteOrder tag)
  let widths ← takePart .timestampSizes 2
  let sec := Bytes.value (widths.take 1)
  let nsec := Bytes.value (widths.drop 1)
  if sec ≠ secWidth ∨ nsec ≠ nsecWidth then corrupt (.timestampSizes sec nsec)
  let flags ← takePart .flags 2
  return (Bytes.value (flags.take 1) ≠ 0, Bytes.value (flags.drop 1) ≠ 0)

/-- Takes the name and its length. -/
def takeName : HeaderReader String := do
  let length := Bytes.value (← takePart .nameLength 4)
  if maxNameLength < length then corrupt (.nameLength length)
  let bytes ← takePart .name length
  match String.fromUTF8? ⟨bytes.toArray⟩ with
  | some name => pure name
  | none => corrupt .nameNotUtf8

/-- Takes a header. -/
def Header.decode : HeaderReader Header := do
  let (periodic, statsDisabled) ← takePreamble
  let wcet ← takeTime
  let period ← takeTime
  let deadline ← takeTime
  let t0 ← takeTime
  let offset ← takeTime
  let jobStats ← takeTime
  let finishToStart ← takeTime
  let name ← takeName
  return {
    name, release := if periodic then .periodic else .aperiodic, statsDisabled, wcet, period, deadline
    t0, offset, overheads := { jobStats, finishToStart } }

/-- A log being read: its header, and a source that stands before the next record. -/
structure Reader where
  header : Header
  source : Source

namespace Reader

/-- Reads the header of a log. -/
def new (source : Source) : Result Reader := do
  let (header, source) ← Header.decode source
  return { header, source }

/-- The next sample, or nothing at the end of the log. A reader stands before the next record whatever
the answer is. -/
def next (r : Reader) : Result (Option Sample) × Reader :=
  match r.source.take recordSize with
  | (.error cause, source) => (.error (.io cause), { r with source })
  | (.ok [], source) => (.ok none, { r with source })
  | (.ok bytes, source) =>
    (if bytes.length = recordSize then (decodeSample bytes).map some
      else .error (.corruptLog (.partialRecord bytes.length)), { r with source })

/-- A sample comes off the bytes that are left. -/
theorem size_next {r r' : Reader} {s : Sample} (h : r.next = (.ok (some s), r')) :
    r'.source.size < r.source.size := by
  unfold next at h
  split at h
  · cases h
  · cases h
  · rename_i bytes source nonempty e
    simp only [Prod.mk.injEq] at h
    obtain ⟨-, rfl⟩ := h
    have fewer := Source.take_size e
    have some : 0 < bytes.length := List.length_pos_iff.2 nonempty
    show source.size < r.source.size
    omega

/-- Folds the samples that are left, up to the end or to the first error, and leaves the reader there. -/
def fold {α : Type} (f : α → Sample → α) (a : α) (r : Reader) : Result α × Reader :=
  match _h : r.next with
  | (.error e, r') => (.error e, r')
  | (.ok none, r') => (.ok a, r')
  | (.ok (some s), r') => r'.fold f (f a s)
termination_by r.source.size
decreasing_by exact size_next _h

/-- Reads all samples that are left. -/
def takeAll (r : Reader) : Result (List Sample) × Reader :=
  let (samples, r) := r.fold (fun samples s => s :: samples) []
  (samples.map List.reverse, r)

/-- All samples that are left. -/
def readAll (r : Reader) : Result (List Sample) := r.takeAll.1

/-- The answers to the next `n` calls. -/
def nexts : Nat → Reader → List (Result (Option Sample))
  | 0, _ => []
  | n + 1, r =>
    let (answer, r) := r.next
    answer :: nexts n r

/-- The reader after `n` calls. -/
def skip : Nat → Reader → Reader
  | 0, r => r
  | n + 1, r => skip n r.next.2

end Reader

end TaskTiming.Log
