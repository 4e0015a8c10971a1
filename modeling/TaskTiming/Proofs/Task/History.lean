import TaskTiming.Proofs.Task.Handshake
import TaskTiming.Proofs.Task.Steps

/-!
# Histories of a task

A history is what the thread of a task meets while it, the calls to stop the task and those who release its
jobs take their steps in any order. The others leave the thread where it is and change nothing of what it
shows in the control; a stop that somebody asked for stays asked for.
-/

namespace TaskTiming
set_option autoImplicit false

/-- What anyone but the thread does to a control. -/
structure Control.Handled (c c' : Control) : Prop where
  inWait : c'.inWait = c.inWait
  finished : c'.finished = c.finished
  stopped : c.stopped = true → c'.stopped = true

theorem Control.Handled.refl (c : Control) : c.Handled c := ⟨rfl, rfl, id⟩

/-- A call to stop a task, be it periodic or not, raises flags that are not the thread's. -/
theorem StopCall.handled_of_meets {call call' : StopCall} {e : Event} {c c' : Control}
    (meets : call.next.Meets e call') (moves : e.Moves c c') : c.Handled c' := by
  cases here : call.spot with
  | raise =>
    rw [StopCall.next, here] at meets
    cases meets
    obtain ⟨rfl, rfl⟩ := moves
    exact ⟨rfl, rfl, fun _ => rfl⟩
  | advance | cancel =>
    rw [StopCall.next, here] at meets
    cases meets
    obtain ⟨rfl, rfl⟩ := moves
    exact ⟨rfl, rfl, id⟩
  | lookFinished _ | lookInWait _ | signal =>
    rw [StopCall.next, here] at meets
    cases meets
    obtain ⟨rfl, rfl⟩ := moves
    exact ⟨rfl, rfl, id⟩
  | pausing _ | complaining _ =>
    rw [StopCall.next, here] at meets
    cases meets
    cases moves
    exact .refl _
  | returned => rw [StopCall.next, here] at meets; cases meets

namespace Company

variable {c₀ c c' : Company} {a : Actor} {events : List Event}

/-- What a step is for the thread. -/
inductive Effect (c c' : Company) : Prop
  /-- The thread meets an event. -/
  | met {e : Event} (meets : c.live.machine.next.Meets e c'.live.machine)
      (moves : e.Moves c.live.control c'.live.control)
  /-- The thread stays where it is. -/
  | apart (machine : c'.live.machine = c.live.machine) (handled : c.live.control.Handled c'.live.control)

/-- **What a step can do to the thread**, whoever takes it. -/
theorem Step.effect (step : Step c a c') : c.Effect c' := by
  cases step with
  | thread leads =>
    rcases Live.moved_of_leads leads with ⟨meets, moves, -⟩ | ⟨-, -, machine, control⟩
    · exact .met meets moves
    · apply Effect.apart machine
      show Control.Handled _ _
      rw [control]
      exact .refl _
  | interruption awaits asleep => exact .apart rfl (.refl _)
  | failure e awaits =>
    refine .met (e := .waitEnd (.error e)) ?_ rfl
    rw [awaits]
    exact .awaitRelease _ _
  | release => exact .apart rfl (.refl _)
  | newCall => exact .apart rfl (.refl _)
  | call here leads =>
    obtain ⟨e, stopped⟩ := Live.stopped_of_leads leads
    exact .apart stopped.machine (StopCall.handled_of_meets stopped.meets stopped.moves)

/-- Steps in any order, from one state to another, with what the thread meets on the way. -/
inductive History (c₀ : Company) : List Event → Company → Prop
  | start : History c₀ [] c₀
  | met {events : List Event} {c c' : Company} {a : Actor} {e : Event} (before : History c₀ events c)
      (step : Step c a c') (meets : c.live.machine.next.Meets e c'.live.machine)
      (moves : e.Moves c.live.control c'.live.control) : History c₀ (events ++ [e]) c'
  | apart {events : List Event} {c c' : Company} {a : Actor} (before : History c₀ events c)
      (step : Step c a c') (machine : c'.live.machine = c.live.machine)
      (handled : c.live.control.Handled c'.live.control) : History c₀ events c'

/-- Every step is told in a history. -/
theorem History.step (history : History c₀ events c) (step : Step c a c') :
    ∃ later, History c₀ (events ++ later) c' := by
  rcases step.effect with ⟨meets, moves⟩ | ⟨machine, handled⟩
  · exact ⟨_, history.met step meets moves⟩
  · refine ⟨[], ?_⟩
    rw [List.append_nil]
    exact history.apart step machine handled

/-- Whatever can be reached has a history. -/
theorem Reachable.history {task : ReadyTask} {admission : Admission} (reached : Reachable task admission c) :
    ∃ events, History (Company.start task admission) events c := by
  induction reached with
  | start => exact ⟨[], .start⟩
  | step _ step ih =>
    obtain ⟨events, history⟩ := ih
    obtain ⟨later, longer⟩ := history.step step
    exact ⟨events ++ later, longer⟩

/-- In every history the thread shows where it stands. -/
theorem History.shows (history : History c₀ events c)
    (shown : c₀.live.machine.Shows c₀.live.control) : c.live.machine.Shows c.live.control := by
  induction history with
  | start => exact shown
  | met _ _ meets moves ih => exact (Thread.shows_step meets moves ih).1
  | apart _ _ machine handled ih =>
    constructor
    · rw [machine, handled.inWait, ih.inWait]
    · rw [machine, handled.finished, ih.finished]

/-- A stop that was asked for once stays asked for. -/
theorem History.stopped (history : History c₀ events c)
    (shown : c₀.live.machine.Shows c₀.live.control) (stop : c₀.live.control.stopped = true) :
    c.live.control.stopped = true := by
  induction history with
  | start => exact stop
  | met before _ meets moves ih =>
    obtain ⟨-, same, -⟩ := Thread.shows_step meets moves (before.shows shown)
    exact same.trans ih
  | apart _ _ _ handled ih => exact handled.stopped ih

end Company

end TaskTiming
