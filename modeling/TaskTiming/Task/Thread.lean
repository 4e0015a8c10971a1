import TaskTiming.Task.Loop
import TaskTiming.Task.Ready

/-!
# The thread of a task

A thread asks to be admitted to its scheduling class, runs its loop, and then writes the samples that its
ring still holds behind the header of its log, whatever ended the loop. It reports the loop's outcome
unless only the writing failed. A job that brings the thread down leaves the log as it is; in any case
the last thing a thread does is to raise its `finished` flag.
-/

namespace TaskTiming
set_option autoImplicit false

/-- What a task's thread leaves. -/
structure Report where
  name : String
  /-- The jobs that ran. -/
  jobs : Nat
  /-- The samples offered to the ring. -/
  totalWrites : Nat
  samplesWritten : Nat
  lost : Nat
  overrun : Bool
  logPath : Path
deriving DecidableEq

/-- How a thread ends. -/
inductive ThreadEnd
  | returned (outcome : Result Report)
  | panicked

/-- Where a thread stands. -/
inductive Thread.Spot
  /-- About to ask for admission. -/
  | admission
  /-- Admitted; about to enter `released`. -/
  | admitted
  /-- In its loop. -/
  | looping (l : Loop)
  /-- The loop is over; about to enter `stopped`. -/
  | leaving (outcome : Result Nat) (sink : Sink)
  /-- About to note that the loop failed. -/
  | complaining (e : Error) (sink : Sink)
  /-- About to note that samples were lost. -/
  | warning (outcome : Result Nat) (ring : Ring) (report : Report) (bytes : List UInt8)
  /-- About to write records into the log; without a report they are all there is to save. -/
  | writing (outcome : Result Nat) (report : Result Report) (bytes : List UInt8)
  /-- The samples are dealt with; about to enter `joined`. -/
  | closing (outcome : Result Nat) (report : Result Report)
  /-- About to note that writing failed, too. -/
  | complainingAgain (e flush : Error)
  /-- About to raise the `finished` flag. -/
  | finishing (fate : ThreadEnd)
  | ended (fate : ThreadEnd)

structure Thread where
  task : ReadyTask
  admission : Admission
  spot : Thread.Spot

namespace Thread

def start (task : ReadyTask) (admission : Admission) : Thread := { task, admission, spot := .admission }

/-- The task's sink before its first job. -/
def sink (t : Thread) : Sink :=
  match t.task.ring with
  | some r => .ring r
  | none => .none

/-- The task's loop before its first job. -/
def firstLoop (t : Thread) : Loop :=
  let p := t.task.params
  match p.release with
  | .aperiodic => .aperiodic p.maxJobs t.sink
  | .periodic =>
    match t.task.t0.add? p.offset with
    | .ok first => .periodic first p.period p.maxJobs t.sink
    | .error e => Loop.fail (.aperiodic p.maxJobs t.sink) (.ofTime e)

/-- On with the loop, or out of it. -/
def proceed (t : Thread) (l : Loop) : Thread :=
  match l.spot with
  | .ended outcome => { t with spot := .leaving outcome l.sink }
  | .panicked => { t with spot := .finishing .panicked }
  | _ => { t with spot := .looping l }

/-- The report of a thread whose ring was written, or that has none. -/
def report (t : Thread) (outcome : Result Nat) (ring : Option Ring) (written : Nat) : Report :=
  { name := t.task.params.name
    jobs := outcome.toOption.getD 0
    totalWrites := (ring.map (·.total)).getD 0
    samplesWritten := written
    lost := (ring.map (·.lost)).getD 0
    overrun := (ring.map (·.overrun)).getD false
    logPath := t.task.path }

/-- On to the samples: what the ring holds becomes records, up to the first sample that has no record. -/
def flush (t : Thread) (outcome : Result Nat) (sink : Sink) : Thread :=
  match sink.ring? with
  | none => { t with spot := .writing outcome (.ok (t.report outcome none 0)) [] }
  | some ring =>
    let (written, log) := t.task.log.appendRing ring
    let records := log.bytes.drop t.task.log.bytes.length
    match written with
    | .error e => { t with spot := .writing outcome (.error e) records }
    | .ok n =>
      let report := t.report outcome (some ring) n
      if ring.overrun then { t with spot := .warning outcome ring report records }
      else { t with spot := .writing outcome (.ok report) records }

/-- The note that a loop failed. -/
def failureLine (t : Thread) (e : Error) : LogLine :=
  ⟨.error, "Task " ++ t.task.params.name ++ " stopped abnormally: " ++ e.message⟩

/-- The note that samples were lost. -/
def overrunLine (t : Thread) (ring : Ring) : LogLine :=
  ⟨.warn, "Task " ++ t.task.params.name ++ ": statistics overrun, " ++ Decimal.text ring.lost ++ " of "
    ++ Decimal.text ring.total ++ " samples lost"⟩

/-- The note that writing failed after the loop did. -/
def flushLine (t : Thread) (e : Error) : LogLine :=
  ⟨.error, "Task " ++ t.task.params.name ++ ": flushing statistics failed: " ++ e.message⟩

/-- The next step of a thread. -/
def next (t : Thread) : Action Thread :=
  match t.spot with
  | .admission => .ask (.enter t.admission) fun
    | .ok () => { t with spot := .admitted }
    | .error e => { t with spot := .leaving (.error e) t.sink }
  | .admitted => .advance .released (t.proceed t.firstLoop)
  | .looping l => l.next.map t.proceed
  | .leaving outcome sink =>
    .advance .stopped <| match outcome with
      | .ok _ => t.flush outcome sink
      | .error e => { t with spot := .complaining e sink }
  | .complaining e sink => .ask (.note (t.failureLine e)) fun _ => t.flush (.error e) sink
  | .warning outcome ring report bytes =>
    .ask (.note (t.overrunLine ring)) fun _ => { t with spot := .writing outcome (.ok report) bytes }
  | .writing outcome report bytes =>
    .ask (.write t.task.path t.task.log.bytes.length bytes) fun saved =>
      { t with spot := .closing outcome (do
        let r ← report
        saved
        return r) }
  | .closing outcome report =>
    .advance .joined <| match outcome, report with
      | .ok _, report => { t with spot := .finishing (.returned report) }
      | .error e, .ok _ => { t with spot := .finishing (.returned (.error e)) }
      | .error e, .error flush => { t with spot := .complainingAgain e flush }
  | .complainingAgain e flush =>
    .ask (.note (t.flushLine flush)) fun _ => { t with spot := .finishing (.returned (.error e)) }
  | .finishing fate => .setFinished { t with spot := .ended fate }
  | .ended _ => .idle

/-- How the thread ended, if it has. -/
def end? (t : Thread) : Option ThreadEnd :=
  match t.spot with
  | .ended fate => some fate
  | _ => none

/-- What joining a thread that has ended gives. -/
def joined (t : Thread) (fate : ThreadEnd) : Result Report :=
  match fate with
  | .returned outcome => outcome
  | .panicked => .error (.io (.threadPanicked t.task.params.name))

end Thread

end TaskTiming
