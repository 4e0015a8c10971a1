import TaskTiming.Command
import TaskTiming.Cpu.Listing

/-!
# The program

The commands in the surroundings of a process: its files, its standard streams, its clock. All actors of a
session take their turns on the one thread of the process. It times no loop: calibrations and overheads are
measured with `World.meter` and `World.bench`, for which a round takes one nanosecond and overheads are nothing.
-/

namespace TaskTiming.Program
set_option autoImplicit false

/-- The number of a system's error. -/
def errorNumber : IO.Error → UInt32
  | .alreadyExists _ n _ => n
  | .otherError n _ => n
  | .resourceBusy n _ => n
  | .resourceVanished n _ => n
  | .unsupportedOperation n _ => n
  | .hardwareFault n _ => n
  | .unsatisfiedConstraints n _ => n
  | .illegalOperation n _ => n
  | .protocolError n _ => n
  | .timeExpired n _ => n
  | .interrupted _ n _ => n
  | .noFileOrDirectory _ n _ => n
  | .invalidArgument _ n _ => n
  | .permissionDenied _ n _ => n
  | .resourceExhausted _ n _ => n
  | .inappropriateType _ n _ => n
  | .noSuchThing _ n _ => n
  | .unexpectedEof => 0
  | .userError _ => 0

/-- Does something that the system may refuse. -/
def attempt {α : Type} (act : IO α) : IO (Except IoError α) := do
  try
    return .ok (← act)
  catch e =>
    let n := errorNumber e
    return .error (if n = 0 then .other (toString e) else .os n.toNat)

/-- The content of a file that may not be there. -/
def content? (name : String) : IO (Option String) := do
  return (← attempt (IO.FS.readFile name)).toOption

def clock : IO Time := do
  return .ofNanosClamped (← IO.monoNanosNow)

/-- The host, as far as it shows itself. -/
def host : IO Host := do
  let status ← content? "/proc/self/status"
  let allowed := (status.map fun s => CpuSet.ofStatus s.toList).getD .empty
  let processors ← content? "/proc/cpuinfo"
  let known ← allowed.cpus.mapM fun cpu => do
    let frequency := Frequency.ofFiles (← content? (Frequency.path cpu)) processors (UInt64.ofNat cpu)
    let governor ← content? (Frequency.governorPath cpu)
    return (UInt64.ofNat cpu, frequency, governor.map fun s => String.ofList (Text.trim s.toList))
  let find (cpu : UInt64) := (known.find? fun k => k.1 = cpu).map (·.2)
  return {
    allowed, privileged := false
    frequency := fun cpu => (find cpu).bind (·.1)
    governor := fun cpu => (find cpu).bind (·.2) }

instance : Storage IO where
  read p := attempt do
    let handle ← IO.FS.Handle.mk p.text .read
    attempt do return (← handle.readBinToEnd).toList
  holds p := do
    return (← attempt (IO.FS.Handle.mk p.text .read)).toBool
  create p := attempt (IO.FS.writeBinFile p.text ByteArray.empty)
  write p offset bytes := attempt do
    let old ← IO.FS.readBinFile p.text
    IO.FS.writeBinFile p.text ⟨(Disk.overlay old.toList offset bytes).toArray⟩

/-- Puts a line into the diary. -/
def note (line : LogLine) : IO Unit := IO.eprintln ("[" ++ line.level.label ++ "] " ++ line.text)

/-- Makes a file that starts with the given bytes, or takes it back if it can be removed. -/
def createWith (path : Path) (bytes : List UInt8) : IO (Except IoError Unit) := do
  match ← Storage.create path with
  | .error cause => return .error cause
  | .ok () =>
    match ← attempt (IO.FS.writeBinFile path.text ⟨bytes.toArray⟩) with
    | .ok () => return .ok ()
    | .error cause =>
      if let .error stays ← attempt (IO.FS.removeFile path.text) then
        note (World.leftoverLine path stays)
      return .error cause

/-- Answers a request. -/
def answer (w : World) (who : Nat) (request : Request) : IO (Reply (Result Unit)) := do
  match request with
  | .print line =>
    IO.println line
    return .answered (.ok ()) w
  | .note line =>
    note line
    return .answered (.ok ()) w
  | .create path bytes =>
    let made ← createWith path bytes
    return .answered (made.mapError .io) w
  | .write path offset bytes =>
    let saved ← Storage.write path offset bytes
    return .answered (saved.mapError .io) w
  | .createDirectories path =>
    let made ← attempt (IO.FS.createDirAll path.text)
    return .answered (made.mapError .io) w
  | request => return w.answer who request

/-- Keeps the processor busy until an instant. -/
partial def spin (instant : Time) : IO Unit := do
  if (← clock) < instant then spin instant

/-- Sleeps until an instant. -/
def sleepUntil (instant : Time) : IO Unit := do
  let nanos := (instant.subClamped (← clock)).toNanos
  IO.sleep (UInt32.ofNat (Nat.min (nanos / 1000000) 1000))
  if nanos < 1000000 then spin instant

/-- Gives the turn to the first actor who can go on, if there is one. -/
partial def moveFirst (s : Session) (w : World) : List Session.Actor → IO (Option Session × World)
  | [] => return (none, w)
  | a :: rest => do
    match s.turn a with
    | .go s => return (some s, w)
    | .readClock next => return (some (next (.ok (← clock))), w)
    | .finishJob next =>
      spin ((← clock) + s.jobTime a)
      return (some (next (.finished (.ok ()))), w)
    | .ask request next =>
      match ← answer w a.number request with
      | .answered outcome w => return (some (next outcome), w)
      | .later w => moveFirst s w rest
    | _ => moveFirst s w rest

/-- Runs a session to its end. -/
partial def conduct (s : Session) (w : World) : IO (Result Unit) := do
  match s.outcome? with
  | some outcome => return outcome
  | none =>
    let w := { w with clock := ← clock }
    match ← moveFirst s w s.actors with
    | (some s, w) => conduct s w
    | (none, w) =>
      sleepUntil (w.nextAlarm?.getD w.clock)
      conduct s w

instance : Surroundings IO where
  print line := IO.println line
  calibrate r := do return Calibration.run (← host) r World.meter
  measureOverheads cpu release rounds := do
    return Overheads.measure (← host) World.bench cpu release rounds
  conduct experiment store := do
    let host ← host
    conduct (.start host experiment store) (.start host .empty (← clock))

/-- What is printed instead of running a command line. -/
def usageText : CommandLine.UsageError → String
  | .version => "task-timing 0.1.0"
  | .help => "Usage: task-timing [--store STORE] calibrate | overhead | run CONFIG | inspect LOGS..."
  | _ => "error: the command line is not understood; see --help"

end TaskTiming.Program

open TaskTiming in
def main (args : List String) : IO UInt32 := do
  match CommandLine.read args with
  | .error e =>
    let text := Program.usageText e
    if e.exitStatus = 0 then IO.println text else IO.eprintln text
    return UInt32.ofNat e.exitStatus
  | .ok invocation =>
    let outcome ← (Command.perform invocation : IO (Result Unit))
    if let .error e := outcome then
      IO.eprintln ("[ERROR] " ++ e.message)
    return UInt32.ofNat (Command.exitStatus outcome)
