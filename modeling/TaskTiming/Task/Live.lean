import TaskTiming.Task.Thread
import TaskTiming.Task.StopCall
import TaskTiming.Release.Wait

/-!
# Running tasks

A running task is its thread, the wait for a release that the thread may be in, its control, and its
releases. The next turn of it, or of a call to stop it, is an atomic step within, a question to the
world, or nothing as long as a wait finds neither a release nor a cancellation.
-/

namespace TaskTiming
set_option autoImplicit false

/-- What something closed does next. -/
inductive Turn (σ : Type)
  /-- Nothing is left to do. -/
  | idle
  /-- It waits for somebody else. -/
  | blocked
  /-- One atomic step. -/
  | go (s : σ)
  | ask (request : Request) (next : Result Unit → σ)
  | readClock (next : Result Time → σ)
  | finishJob (next : JobEnd → σ)

/-- The same turn of something larger. -/
def Turn.map {σ τ : Type} (f : σ → τ) : Turn σ → Turn τ
  | .idle => .idle
  | .blocked => .blocked
  | .go s => .go (f s)
  | .ask request next => .ask request fun r => f (next r)
  | .readClock next => .readClock fun r => f (next r)
  | .finishJob next => .finishJob fun r => f (next r)

/-- A task whose machine, its thread, takes steps of its own. -/
structure Live (σ : Type) where
  machine : σ
  /-- The wait that the machine is in, from its first step on. -/
  wait : Wait
  control : Control
  releases : EventCounter

namespace Live

variable {σ : Type}

def start (machine : σ) : Live σ := { machine, wait := .look, control := .new, releases := .single }

/-- The turn of the machine whose next step is given. -/
def turn (next : σ → Action σ) (l : Live σ) : Turn (Live σ) :=
  match next l.machine with
  | .idle => .idle
  | .access effect => .go { l with machine := (effect l.control).1, control := (effect l.control).2 }
  | .ask request next => .ask request fun r => { l with machine := next r }
  | .readClock next => .readClock fun r => { l with machine := next r }
  | .finishJob next => .finishJob fun r => { l with machine := next r }
  | .awaitRelease next =>
    match l.wait with
    | .done outcome => .go { l with machine := next (.ok outcome), wait := .look }
    | wait =>
      match wait.step l.control.cancel l.releases false with
      | some (wait, releases) => .go { l with wait, releases }
      | none => .blocked

/-- One release. -/
def release (l : Live σ) : Result Unit × Live σ :=
  let (outcome, releases) := l.releases.signal
  (outcome.mapError .io, { l with releases })

/-- The turn of a call to stop the task. -/
def stopTurn (l : Live σ) (call : StopCall) : Turn (Live σ × StopCall) :=
  match call.next with
  | .access effect => .go ({ l with control := (effect l.control).2 }, (effect l.control).1)
  | .ask request next => .ask request fun r => (l, next r)
  | _ => .idle

end Live

/-- A running task. -/
abbrev LiveTask := Live Thread

/-- Starting a task: unless something is wrong with it, the system is asked for a thread. -/
def ReadyTask.spawn (task : ReadyTask) (hasReleases : Bool) : Turn (Result Unit) :=
  match task.checkStart hasReleases with
  | .error e => .go (.error e)
  | .ok () => .ask (.startThread task.params.name) id

end TaskTiming
