import TaskTiming.Task.Live
import TaskTiming.Proofs.Task.Run

/-!
# A task and those around it

A running task and the calls to stop it, which share its control, take their atomic steps in any order;
so do those who release its jobs, and a wait may be interrupted or fail at any time. New calls begin
whenever somebody makes them. What a turn of the thread can do is said once (`Live.Moved`), in terms of
the events of its runs.
-/

namespace TaskTiming
set_option autoImplicit false

/-- A turn leads to a state, whatever the world answers. -/
inductive Turn.Leads {σ : Type} : Turn σ → σ → Prop
  | go (s : σ) : Leads (.go s) s
  | ask (request : Request) (next : Result Unit → σ) (outcome : Result Unit) :
      Leads (.ask request next) (next outcome)
  | readClock (next : Result Time → σ) (now : Result Time) : Leads (.readClock next) (next now)
  | finishJob (next : JobEnd → σ) (outcome : JobEnd) : Leads (.finishJob next) (next outcome)

/-- What an event does to the control. -/
def Event.Moves (e : Event) (c c' : Control) : Prop :=
  match e with
  | .access found left => found = c ∧ left = c'
  | _ => c' = c

/-- A task, and the calls to stop it through its handle. -/
structure Company where
  live : LiveTask
  /-- What a call is before its first step. -/
  handle : StopCall
  calls : List StopCall

namespace Company

/-- Whose step it is. -/
inductive Actor
  | thread
  /-- A signal interrupts the sleep of a wait. -/
  | interruption
  /-- The system fails a wait. -/
  | failure
  /-- Somebody releases a job. -/
  | release
  /-- Somebody begins to stop the task. -/
  | newCall
  | call (i : Nat)
deriving DecidableEq

/-- A task made ready and a class for its thread, before the first step. -/
def start (task : ReadyTask) (admission : Admission) : Company :=
  { live := .start (.start task admission)
    handle := .start task.params.name task.params.release task.params.wcet
    calls := [] }

/-- One atomic step. -/
inductive Step : Company → Actor → Company → Prop
  | thread {c : Company} {live : LiveTask} (leads : (c.live.turn Thread.next).Leads live) :
      Step c .thread { c with live }
  | interruption {c : Company} {next : Result WaitOutcome → Thread}
      (awaits : c.live.machine.next = .awaitRelease next) (asleep : c.live.wait = .asleep) :
      Step c .interruption { c with live := { c.live with wait := .look } }
  | failure {c : Company} {next : Result WaitOutcome → Thread} (e : Error)
      (awaits : c.live.machine.next = .awaitRelease next) :
      Step c .failure { c with live := { c.live with machine := next (.error e), wait := .look } }
  | release (c : Company) : Step c .release { c with live := c.live.release.2 }
  | newCall (c : Company) : Step c .newCall { c with calls := c.calls ++ [c.handle] }
  | call {c : Company} {i : Nat} {call call' : StopCall} {live : LiveTask} (here : c.calls[i]? = some call)
      (leads : (c.live.stopTurn call).Leads (live, call')) :
      Step c (.call i) { c with live, calls := c.calls.set i call' }

/-- What can be reached by steps in any order. -/
inductive Reachable (task : ReadyTask) (admission : Admission) : Company → Prop
  | start : Reachable task admission (start task admission)
  | step {c c' : Company} {a : Actor} (before : Reachable task admission c) (step : Step c a c') :
      Reachable task admission c'

/-- Steps through states of one kind only, with those who take them. -/
inductive RunWithin (P : Company → Prop) : Company → List Actor → Company → Prop
  | nil {c : Company} (here : P c) : RunWithin P c [] c
  | cons {c c' c'' : Company} {a : Actor} {rest : List Actor} (here : P c) (step : Step c a c')
      (run : RunWithin P c' rest c'') : RunWithin P c (a :: rest) c''

/-- A run begins in a state of its kind. -/
theorem RunWithin.first {P : Company → Prop} {c c' : Company} {actors : List Actor}
    (run : RunWithin P c actors c') : P c := by
  cases run with
  | nil here => exact here
  | cons here _ _ => exact here

end Company

/-! ## Turns -/

namespace Live

variable {σ : Type} {next : σ → Action σ} {l l' : Live σ}

/-- What the machine's turn, or a failure of its wait, does. -/
inductive Moved (next : σ → Action σ) (l l' : Live σ) : Prop
  /-- The machine meets an event. -/
  | met {e : Event} (meets : (next l.machine).Meets e l'.machine) (moves : e.Moves l.control l'.control)
      (releases : l'.releases = l.releases)
  /-- The wait that the machine is in takes a step. -/
  | waited {k : Result WaitOutcome → σ} (awaits : next l.machine = .awaitRelease k)
      (step : l.wait.step l.control.cancel l.releases false = some (l'.wait, l'.releases))
      (machine : l'.machine = l.machine) (control : l'.control = l.control)

theorem moved_of_leads (leads : (l.turn next).Leads l') : l.Moved next l' := by
  unfold Live.turn at leads
  cases action : next l.machine with
  | idle => rw [action] at leads; cases leads
  | access effect =>
    rw [action] at leads
    cases leads
    refine .met (e := .access l.control (effect l.control).2) ?_ ⟨rfl, rfl⟩ rfl
    rw [action]
    exact .access _ _
  | ask request k =>
    rw [action] at leads
    cases leads with
    | ask _ _ outcome =>
      refine .met (e := .answer request outcome) ?_ rfl rfl
      rw [action]
      exact .ask _ _ _
  | readClock k =>
    rw [action] at leads
    cases leads with
    | readClock _ now =>
      refine .met (e := .clock now) ?_ rfl rfl
      rw [action]
      exact .readClock _ _
  | finishJob k =>
    rw [action] at leads
    cases leads with
    | finishJob _ outcome =>
      refine .met (e := .jobEnd outcome) ?_ rfl rfl
      rw [action]
      exact .finishJob _ _
  | awaitRelease k =>
    rw [action] at leads
    dsimp only at leads
    split at leads
    · rename_i outcome _
      cases leads
      refine .met (e := .waitEnd (.ok outcome)) ?_ rfl rfl
      rw [action]
      exact .awaitRelease _ _
    · split at leads
      · rename_i step
        cases leads
        exact .waited action step rfl rfl
      · cases leads

/-- What the turn of a call does: the call meets an event, and only the control changes for the task. -/
structure Stopped (l l' : Live σ) (call call' : StopCall) (e : Event) : Prop where
  meets : call.next.Meets e call'
  moves : e.Moves l.control l'.control
  machine : l'.machine = l.machine
  wait : l'.wait = l.wait
  releases : l'.releases = l.releases

theorem stopped_of_leads {call call' : StopCall} (leads : (l.stopTurn call).Leads (l', call')) :
    ∃ e, l.Stopped l' call call' e := by
  unfold Live.stopTurn at leads
  cases action : call.next with
  | access effect =>
    rw [action] at leads
    cases leads
    refine ⟨.access l.control (effect l.control).2, ?_, ⟨rfl, rfl⟩, rfl, rfl, rfl⟩
    rw [action]
    exact .access _ _
  | ask request k =>
    rw [action] at leads
    cases leads with
    | ask _ _ outcome =>
      refine ⟨.answer request outcome, ?_, rfl, rfl, rfl, rfl⟩
      rw [action]
      exact .ask _ _ _
  | _ => rw [action] at leads; cases leads

end Live

end TaskTiming
