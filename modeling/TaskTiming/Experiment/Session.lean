import TaskTiming.Experiment
import TaskTiming.Experiment.Generator
import TaskTiming.Store

/-!
# Sessions

An experiment under way. A conductor sets up the tasks one after the other, waits until the time is over,
all tasks have stopped or the session is interrupted, and then stops and joins them all. When a task
cannot be set up, those before it are stopped and joined, and its error is what the session ends with. A
task whose generator cannot be started runs on, and nobody stops it. Conductor, tasks and generators take
turns of one atomic step each, in any order.
-/

namespace TaskTiming
set_option autoImplicit false

/-- Where the conductor stands. -/
inductive Session.Spot
  /-- About to make the log directory. -/
  | directory
  /-- About to read the clock for the common start. -/
  | common
  /-- About to prepare the task at a position of the experiment. -/
  | preparing (i : Nat)
  /-- About to note what is wrong but not refused. -/
  | noting (i : Nat) (lines : List LogLine) (outcome : Result (ReadyTask × Calibration))
  /-- About to make a task's log. -/
  | creating (i : Nat) (task : ReadyTask) (job : Calibration)
  /-- About to start a task's thread. -/
  | starting (i : Nat) (task : ReadyTask) (job : Calibration)
  /-- About to start a task's generator. -/
  | generating (i : Nat) (interval : Time)
  /-- About to look whether the session was interrupted. -/
  | polling
  /-- About to read the clock. -/
  | pollingClock
  /-- About to look at the state of a started task. -/
  | pollingState (i : Nat)
  | resting
  /-- About to end the session for the generators. -/
  | dropping
  /-- Stopping a started task. -/
  | stopping (i : Nat) (call : StopCall)
  /-- Waiting for the thread of a started task. -/
  | joining (i : Nat)
  /-- Waiting for a generator. -/
  | joiningGenerator (i : Nat)
  | returned (outcome : Result Unit)

/-- A task that was started: its thread, and what its jobs spend. -/
structure Started where
  live : LiveTask
  job : Calibration

structure Session where
  host : Host
  experiment : Experiment
  store : Store
  /-- The common start. -/
  t0 : Time
  /-- The session was not interrupted or ended. -/
  running : Bool
  tasks : List Started
  /-- How many of the started tasks it holds, to stop and join them. A task that needs a generator is held
  once that is started. -/
  handles : Nat
  generators : List Generator
  /-- Why the setting up was given up. -/
  failure : Option Error
  /-- The first error among the joined tasks. -/
  firstError : Option Error
  spot : Session.Spot

/-- Who takes a turn. -/
inductive Session.Actor
  | conductor
  | task (i : Nat)
  | generator (i : Nat)
deriving DecidableEq, Repr

namespace Session

def start (host : Host) (experiment : Experiment) (store : Store) : Session :=
  { host, experiment, store, t0 := .zero, running := true, tasks := [], handles := 0, generators := []
    failure := none, firstError := none, spot := .directory }

/-- The tasks that it stops and joins. -/
def held (s : Session) : List Started := s.tasks.take s.handles

/-- How far the frequency of a CPU may be from that of its calibration, in millionths. -/
def freshness : UInt64 := 10000

/-- How long the conductor rests between two looks. -/
def rest : Time := .ofMillis 10

def frequencyLine (cpu : UInt64) : LogLine :=
  ⟨.warn, "CPU " ++ Decimal.text cpu.toNat
    ++ " runs at a different frequency than during calibration; job durations will be off"⟩

def overheadsLine (p : TaskParams) (cpu : UInt64) : LogLine :=
  ⟨.warn, "No " ++ p.release.label ++ " overheads measured for CPU " ++ Decimal.text cpu.toNat
    ++ "; task " ++ p.name ++ " uses its full WCET"⟩

/-- The parameters with the overheads that were measured, unless they have some; and a note if there are
none. -/
def fillOverheads (s : Session) (p : TaskParams) (cpu : UInt64) : TaskParams × List LogLine :=
  if p.overheads = .none then
    match s.store.overheads cpu p.release with
    | some o => ({ p with overheads := o }, [])
    | none => (p, [overheadsLine p cpu])
  else (p, [])

/-- Prepares a task: what is to be noted, and the task or what is wrong with it. -/
def prepare (s : Session) (t : ExperimentTask) : List LogLine × Result (ReadyTask × Calibration) :=
  let cpu := s.experiment.taskCpu t
  match (s.store.cpu? cpu).bind (·.busyloop) with
  | none => ([], .error (.argument (.notCalibrated cpu.toNat)))
  | some calibration =>
    let stale := calibration.isFresh s.host freshness = some false
    let (params, lines) := s.fillOverheads t.params cpu
    ((if stale then [frequencyLine cpu] else []) ++ lines,
      ReadyTask.prepareBusy params s.t0 calibration (t.logPath s.experiment.logDir))

/-- How the thread of a task asks for its class. -/
def admission (s : Session) (t : ExperimentTask) : Admission :=
  if s.experiment.realtime then .fifo t.priorityOr.toInt (some (s.experiment.taskCpu t)) else .bestEffort

def goto (s : Session) (spot : Spot) : Session := { s with spot }

def finish (s : Session) (outcome : Result Unit) : Session := s.goto (.returned outcome)

/-- Gives up setting up; an abort brings the conductor down. -/
def giveUp (s : Session) (e : Error) : Session :=
  if e.isAbort then s.finish (.error e) else { s with failure := some e, spot := .dropping }

/-- On to the task at a position, or past the last one. -/
def setUp (s : Session) (i : Nat) : Session :=
  if i < s.experiment.tasks.length then s.goto (.preparing i)
  else
    match s.experiment.duration with
    | none => s.goto .polling
    | some d =>
      match s.t0.add? d with
      | .ok _ => s.goto .polling
      | .error e => s.finish (.error (.ofTime e))

/-- The interval between the releases of a task, if it has releases of its own. -/
def intervalOf (t : ExperimentTask) : Option Time :=
  if t.params.release = .aperiodic then t.releaseInterval else none

/-- The thread of a task runs; on to its generator, if it has one. -/
def taskStarted (s : Session) (i : Nat) (t : ExperimentTask) (task : ReadyTask) (job : Calibration) : Session :=
  let live := Live.start (Thread.start task (s.admission t))
  let s := { s with tasks := s.tasks ++ [Started.mk live job] }
  match intervalOf t with
  | some interval => s.goto (.generating i interval)
  | none => { s with handles := s.handles + 1 }.setUp (i + 1)

/-- Starts the thread of a task. -/
def startTask (s : Session) (i : Nat) (task : ReadyTask) (job : Calibration) : Turn Session :=
  match s.experiment.tasks[i]? with
  | none => .go (s.giveUp (.argument .noTasks))
  | some t =>
    (task.spawn (intervalOf t).isSome).map fun
      | .ok () => s.taskStarted i t task job
      | .error e => s.giveUp e

/-- The generator of the task that was started last. -/
def newGenerator (s : Session) (interval : Time) (started : Started) : Generator :=
  let p := started.live.machine.task.params
  .start p.name (s.tasks.length - 1) (s.t0 + p.offset) interval

/-- The generator of the task that was started last runs. -/
def generatorStarted (s : Session) (i : Nat) (interval : Time) (started : Started) : Session :=
  { s with handles := s.handles + 1, generators := s.generators ++ [s.newGenerator interval started] }.setUp (i + 1)

/-- Starts the generator of the task that was started last, which is not held without it. -/
def startGenerator (s : Session) (i : Nat) (interval : Time) : Turn Session :=
  match s.tasks.getLast? with
  | none => .go (s.setUp (i + 1))
  | some started =>
    .ask (.startThread (s.newGenerator interval started).name) fun
      | .ok () => s.generatorStarted i interval started
      | .error e => s.giveUp e

/-- The time is over. -/
def isOver (s : Session) (now : Time) : Bool :=
  match s.experiment.duration with
  | none => false
  | some d =>
    match s.t0.add? d with
    | .ok last => last ≤ now
    | .error _ => false

/-- On to stopping a started task; behind the last one, to joining. -/
def stopFrom (s : Session) (i : Nat) : Session :=
  match s.held[i]? with
  | some started =>
    let p := started.live.machine.task.params
    s.goto (.stopping i (.start p.name p.release p.wcet))
  | none => s.goto (if s.failure.isSome ∨ s.held.isEmpty then .joiningGenerator 0 else .joining 0)

/-- A started task is told to stop: on to joining it, or to stopping the next. -/
def stopped (s : Session) (i : Nat) : Session :=
  if s.failure.isSome then s.goto (.joining i) else s.stopFrom (i + 1)

/-- A started task is joined: on to the next. -/
def joined (s : Session) (i : Nat) : Session :=
  if s.failure.isSome then s.stopFrom (i + 1)
  else s.goto (if i + 1 < s.held.length then .joining (i + 1) else .joiningGenerator 0)

/-- The line printed for a task that went well. -/
def reportLine (r : Report) : String :=
  r.name ++ ": " ++ Decimal.text r.jobs ++ " jobs, " ++ Decimal.text r.samplesWritten ++ " samples in "
    ++ r.logPath.literal ++ ", " ++ Decimal.text r.lost ++ " lost"

/-- The note on a task that failed. -/
def failedLine (name : String) (e : Error) : LogLine :=
  ⟨.error, "Task " ++ name ++ " failed: " ++ e.message⟩

/-- What is left to say of a task that has ended. -/
def joinTurn (s : Session) (i : Nat) (thread : Thread) (fate : ThreadEnd) : Turn Session :=
  match thread.joined fate with
  | .ok report =>
    if s.failure.isSome then .go (s.joined i)
    else .ask (.print (reportLine report)) fun _ => s.joined i
  | .error e =>
    if s.failure.isSome then .ask (.note ⟨.error, e.message⟩) fun _ => s.joined i
    else
      .ask (.note (failedLine thread.task.params.name e)) fun _ =>
        { s with firstError := some (s.firstError.getD e) }.joined i

/-- The outcome of the session once all are joined. -/
def outcome (s : Session) : Result Unit :=
  match s.failure, s.firstError with
  | some e, _ => .error e
  | none, some e => .error e
  | none, none => .ok ()

def setLive (s : Session) (i : Nat) (live : LiveTask) : Session :=
  { s with tasks := s.tasks.modify i fun started => { started with live } }

def setGenerator (s : Session) (i : Nat) (g : Generator) : Session :=
  { s with generators := s.generators.set i g }

/-- The conductor's turn. -/
def conduct (s : Session) : Turn Session :=
  match s.spot with
  | .directory => .ask (.createDirectories s.experiment.logDir) fun
    | .ok () => s.goto .common
    | .error e => s.finish (.error e)
  | .common => .readClock fun now =>
    match now.bind fun now => Result.ofTime (now.add? s.experiment.startDelay) with
    | .ok t0 => { s with t0 }.setUp 0
    | .error e => s.finish (.error e)
  | .preparing i =>
    match s.experiment.tasks[i]? with
    | none => .go (s.setUp i)
    | some t =>
      let (lines, outcome) := s.prepare t
      .go (s.goto (.noting i lines outcome))
  | .noting i (line :: lines) outcome => .ask (.note line) fun _ => s.goto (.noting i lines outcome)
  | .noting i [] outcome =>
    match outcome with
    | .ok (task, job) => .go (s.goto (.creating i task job))
    | .error e => .go (s.giveUp e)
  | .creating i task job => .ask (.create task.path task.log.bytes) fun
    | .ok () => s.goto (.starting i task job)
    | .error e => s.giveUp e
  | .starting i task job => s.startTask i task job
  | .generating i interval => s.startGenerator i interval
  | .polling => .go (s.goto (if s.running then .pollingClock else .dropping))
  | .pollingClock => .readClock fun
    | .ok now => s.goto (if s.isOver now then .dropping else .pollingState 0)
    | .error e => s.finish (.error e)
  | .pollingState i =>
    match s.held[i]? with
    | none => .go (s.goto .dropping)
    | some started =>
      let gone := TaskState.stopped.rank ≤ started.live.control.state.rank
      .go (s.goto (if gone then .pollingState (i + 1) else .resting))
  | .resting => .ask (.pause rest) fun _ => s.goto .polling
  | .dropping => .go ({ s with running := false }.stopFrom 0)
  | .stopping i call =>
    if call.spot = .returned then .go (s.stopped i)
    else
      match s.held[i]? with
      | none => .go (s.stopped i)
      | some started =>
        (started.live.stopTurn call).map fun (live, call) => (s.setLive i live).goto (.stopping i call)
  | .joining i =>
    match s.held[i]? with
    | none => .go (s.goto (.joiningGenerator 0))
    | some started =>
      match started.live.machine.end? with
      | none => .blocked
      | some fate => s.joinTurn i started.live.machine fate
  | .joiningGenerator i =>
    match s.generators[i]? with
    | none => .go (s.finish s.outcome)
    | some g => if g.spot = .ended then .go (s.goto (.joiningGenerator (i + 1))) else .blocked
  | .returned _ => .idle

/-- A generator's turn. -/
def generatorTurn (s : Session) (i : Nat) : Turn Session :=
  match s.generators[i]? with
  | none => .idle
  | some g =>
    match g.spot with
    | .look => .go (s.setGenerator i (g.looked s.running))
    | .sleep => .ask (.sleepUntil g.release) fun r => s.setGenerator i (g.slept r)
    | .signal =>
      match s.tasks[g.task]? with
      | none => .idle
      | some started =>
        let (outcome, live) := started.live.release
        .go ((s.setLive g.task live).setGenerator i (g.signalled outcome))
    | .complaining e =>
      .ask (.note (g.failureLine e)) fun _ => s.setGenerator i { g with spot := .ended }
    | .ended => .idle

/-- The turn of an actor. -/
def turn (s : Session) : Actor → Turn Session
  | .conductor => s.conduct
  | .task i =>
    match s.tasks[i]? with
    | none => .idle
    | some started => (started.live.turn Thread.next).map (s.setLive i)
  | .generator i => s.generatorTurn i

/-- The session is interrupted from outside. -/
def interrupt (s : Session) : Session := { s with running := false }

/-- What the session ended with, if it has. -/
def outcome? (s : Session) : Option (Result Unit) :=
  match s.spot with
  | .returned outcome => some outcome
  | _ => none

/-- All who may take a turn. -/
def actors (s : Session) : List Actor :=
  .conductor :: (List.range s.tasks.length).map .task ++ (List.range s.generators.length).map .generator

/-- What a job of an actor's task takes. -/
def jobTime (s : Session) : Actor → Time
  | .task i => ((s.tasks[i]?).map (·.job.target)).getD .zero
  | _ => .zero

end Session

end TaskTiming
