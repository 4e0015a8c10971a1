import TaskTiming.Task.Action
import TaskTiming.Disk
import TaskTiming.Time.Arith

/-!
# Worlds

What answers the requests of tasks and programs: a host, a disk, a clock, a diary and a place to print.
Time does not pass on its own. Whoever must wait for an instant leaves an alarm, and the clock is moved to
the earliest alarm when nobody can go on.
-/

namespace TaskTiming
set_option autoImplicit false

structure World where
  host : Host
  disk : Disk
  clock : Time
  /-- The lines printed, in order. -/
  printed : List String
  /-- The lines noted, in order. -/
  diary : List LogLine
  /-- Who waits for which instant. -/
  alarms : List (Nat × Time)

/-- What the world says to a request. -/
inductive Reply (α : Type)
  | answered (a : α) (w : World)
  /-- Not yet; an alarm is set. -/
  | later (w : World)

namespace World

def start (host : Host) (disk : Disk) (clock : Time) : World :=
  { host, disk, clock, printed := [], diary := [], alarms := [] }

def print (w : World) (line : String) : World := { w with printed := w.printed ++ [line] }

def note (w : World) (line : LogLine) : World := { w with diary := w.diary ++ [line] }

/-- The note on a log that was refused its header and stays. -/
def leftoverLine (path : Path) (cause : IoError) : LogLine :=
  ⟨.warn, "Failed to remove partial log " ++ path.literal ++ ": " ++ cause.message⟩

/-- Waits for an instant, or for the one that was set before. -/
def waitFor (w : World) (who : Nat) (instant : Time) : Reply Unit :=
  let due := ((w.alarms.find? (·.1 = who)).map (·.2)).getD instant
  let others := w.alarms.filter (·.1 ≠ who)
  if due ≤ w.clock then .answered () { w with alarms := others }
  else .later { w with alarms := (who, due) :: others }

/-- The answer to a request. -/
def answer (w : World) (who : Nat) : Request → Reply (Result Unit)
  | .sleepUntil instant =>
    match w.waitFor who instant with
    | .answered () w => .answered (.ok ()) w
    | .later w => .later w
  | .pause duration =>
    match w.waitFor who (w.clock + duration) with
    | .answered () w => .answered (.ok ()) w
    | .later w => .later w
  | .enter admission => .answered (admission.enter w.host) w
  | .startThread _ => .answered (.ok ()) w
  | .startJob => .answered (.ok ()) w
  | .note line => .answered (.ok ()) (w.note line)
  | .print line => .answered (.ok ()) (w.print line)
  | .create path bytes =>
    let (outcome, disk) := w.disk.createWith path bytes
    let notes := (w.disk.leftover? path bytes).toList.map (leftoverLine path)
    .answered (outcome.mapError .io) { w with disk, diary := w.diary ++ notes }
  | .write path offset bytes =>
    let (outcome, disk) := w.disk.write path offset bytes
    .answered (outcome.mapError .io) { w with disk }
  | .createDirectories path =>
    let (outcome, disk) := w.disk.createDirectories path
    .answered (outcome.mapError .io) { w with disk }

/-- The earliest alarm. -/
def nextAlarm? (w : World) : Option Time :=
  w.alarms.foldl (fun earliest (_, t) => some (match earliest with
    | none => t
    | some e => min e t)) none

end World

end TaskTiming
