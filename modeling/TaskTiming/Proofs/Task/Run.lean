import TaskTiming.Task.Control
import TaskTiming.Task.Loop

/-!
# Runs of one machine

A machine is run by answering its steps. Its run is told by the events it meets, in order: what its
environment answers, and how it finds and leaves the control when it accesses it. Nothing ties one of
these controls to the next, so a run stands for every schedule of those who share the control.
-/

namespace TaskTiming
set_option autoImplicit false

/-- What a machine meets in one step. -/
inductive Event
  /-- It accesses the control, which it finds and leaves like this. -/
  | access (found left : Control)
  | answer (request : Request) (outcome : Result Unit)
  | clock (now : Result Time)
  | jobEnd (outcome : JobEnd)
  | waitEnd (outcome : Result WaitOutcome)

namespace Action

variable {σ τ : Type}

/-- A step that meets an event goes on in a state. -/
inductive Meets : Action σ → Event → σ → Prop
  | access (effect : Control → σ × Control) (found : Control) :
      Meets (.access effect) (.access found (effect found).2) (effect found).1
  | ask (request : Request) (next : Result Unit → σ) (outcome : Result Unit) :
      Meets (.ask request next) (.answer request outcome) (next outcome)
  | readClock (next : Result Time → σ) (now : Result Time) :
      Meets (.readClock next) (.clock now) (next now)
  | finishJob (next : JobEnd → σ) (outcome : JobEnd) :
      Meets (.finishJob next) (.jobEnd outcome) (next outcome)
  | awaitRelease (next : Result WaitOutcome → σ) (outcome : Result WaitOutcome) :
      Meets (.awaitRelease next) (.waitEnd outcome) (next outcome)

theorem Meets.map (f : σ → τ) {a : Action σ} {e : Event} {s : σ} (meets : a.Meets e s) :
    (a.map f).Meets e (f s) := by
  cases meets with
  | access effect found => exact .access _ found
  | ask request next outcome => exact .ask request _ outcome
  | readClock next now => exact .readClock _ now
  | finishJob next outcome => exact .finishJob _ outcome
  | awaitRelease next outcome => exact .awaitRelease _ outcome

/-- What a part meets, the whole meets. -/
theorem meets_map {f : σ → τ} {a : Action σ} {e : Event} {t : τ} (meets : (a.map f).Meets e t) :
    ∃ s, a.Meets e s ∧ t = f s := by
  cases a with
  | idle => cases meets
  | access effect => cases meets; exact ⟨_, .access _ _, rfl⟩
  | ask request next => cases meets; exact ⟨_, .ask _ _ _, rfl⟩
  | readClock next => cases meets; exact ⟨_, .readClock _ _, rfl⟩
  | finishJob next => cases meets; exact ⟨_, .finishJob _ _, rfl⟩
  | awaitRelease next => cases meets; exact ⟨_, .awaitRelease _ _, rfl⟩

/-- A part with a step left leaves the whole one. -/
theorem map_eq_idle {f : σ → τ} {a : Action σ} (idle : a.map f = .idle) : a = .idle := by
  cases a with
  | idle => rfl
  | _ => cases idle

end Action

/-- A machine with these steps meets events on its way from one state to another. -/
inductive Run {σ : Type} (next : σ → Action σ) : σ → List Event → σ → Prop
  | nil (s : σ) : Run next s [] s
  | cons {s t u : σ} {e : Event} {rest : List Event} (meets : (next s).Meets e t) (run : Run next t rest u) :
      Run next s (e :: rest) u

namespace Run

variable {σ : Type} {next : σ → Action σ} {s t : σ} {events : List Event}

/-- A run in two parts comes by a state between them. -/
theorem split {first second : List Event} (run : Run next s (first ++ second) t) :
    ∃ u, Run next s first u ∧ Run next u second t := by
  induction first generalizing s with
  | nil => exact ⟨s, .nil s, run⟩
  | cons e rest ih =>
    cases run with
    | cons meets run =>
      obtain ⟨u, early, late⟩ := ih run
      exact ⟨u, .cons meets early, late⟩

/-- A run and one more step. -/
theorem snoc {u : σ} {e : Event} (run : Run next s events t) (meets : (next t).Meets e u) :
    Run next s (events ++ [e]) u := by
  induction run with
  | nil => exact .cons meets (.nil _)
  | cons first _ ih => exact .cons first (ih meets)

/-- Nothing happens to a machine with nothing left to do. -/
theorem of_idle (run : Run next s events t) (idle : next s = .idle) : events = [] ∧ t = s := by
  cases run with
  | nil => exact ⟨rfl, rfl⟩
  | cons meets rest => rw [idle] at meets; cases meets

/-- A run that ends with nothing left to do does not end before a step that is left. -/
theorem first (run : Run next s events t) (idle : next t = .idle) (busy : next s ≠ .idle) :
    ∃ e rest u, events = e :: rest ∧ (next s).Meets e u ∧ Run next u rest t := by
  cases run with
  | nil => exact (busy idle).elim
  | cons meets rest => exact ⟨_, _, _, rfl, meets, rest⟩

/-- An access to the control finds it somehow. -/
theorem first_access (run : Run next s events t) (idle : next t = .idle)
    {effect : Control → σ × Control} (step : next s = .access effect) :
    ∃ found rest, events = .access found (effect found).2 :: rest ∧ Run next (effect found).1 rest t := by
  obtain ⟨e, rest, u, rfl, meets, run⟩ := run.first idle (by rw [step]; intro h; cases h)
  rw [step] at meets
  cases meets
  exact ⟨_, rest, rfl, run⟩

/-- A request is answered somehow. -/
theorem first_answer (run : Run next s events t) (idle : next t = .idle) {request : Request}
    {k : Result Unit → σ} (step : next s = .ask request k) :
    ∃ outcome rest, events = .answer request outcome :: rest ∧ Run next (k outcome) rest t := by
  obtain ⟨e, rest, u, rfl, meets, run⟩ := run.first idle (by rw [step]; intro h; cases h)
  rw [step] at meets
  cases meets
  exact ⟨_, rest, rfl, run⟩

end Run

end TaskTiming
