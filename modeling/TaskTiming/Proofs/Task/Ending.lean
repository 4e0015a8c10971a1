import TaskTiming.Proofs.Task.History

/-!
# How threads end

The jobs of a task may be known to end and not to fail, as busy loops do. Then nothing brings its thread
down, and a thread that has ended has put its log on the disk and entered `joined` before. Whoever takes
the next step, the task has come at least as far as it was (`Live.Onward`): what has ended stays so, and a
stop that was asked for stays asked for.
-/

namespace TaskTiming
set_option autoImplicit false

/-! ## How a thread ends whose job does not bring it down -/

namespace Loop

variable {l l' : Loop} {e : Event}

theorem up_released (l : Loop) : l.released.spot ≠ .panicked := by
  rcases l.spot_released with ⟨there, -⟩ | there | there <;> simp [there]

theorem up_jobDone (l : Loop) : l.jobDone.spot ≠ .panicked := by
  rcases l.spot_jobDone with there | ⟨n, there⟩ <;> simp [there]

theorem up_sleepTo (l : Loop) (release : Time) : (l.sleepTo release).spot ≠ .panicked := by
  rcases l.spot_sleepTo release with there | ⟨e, there⟩ <;> simp [there]

/-- A job brings a loop down, and nothing else does. -/
theorem up_of_did (did : l.Did e l') (whole : e ≠ .jobEnd .panicked) : l'.spot ≠ .panicked := by
  cases did with
  | slept | released => exact l.up_released
  | entered => rcases l.spot_toJob with there | there <;> simp [there]
  | counted => exact l.up_jobDone
  | clockedOut => exact up_jobDone _
  | wentOn => rcases l.spot_again with there | there | ⟨e, there⟩ <;> simp [there]
  | panicked => exact (whole rfl).elim
  | _ => simp [fail]

end Loop

/-- Whoever enters `joined` is there. -/
theorem Control.joined_advance (c : Control) : (c.advance .joined).state = .joined := by
  unfold advance
  cases c.state <;> rfl

/-- Nothing lies behind `joined`. -/
theorem Control.advance_joined {c : Control} (joined : c.state = .joined) (s : TaskState) :
    (c.advance s).state = .joined := by
  unfold advance
  rw [joined]
  cases s <;> rfl

namespace Thread

variable {t t' : Thread} {e : Event} {c c' : Control}

/-- Behind its log a thread has entered `joined`, and its job has not brought it down. -/
def HasClosed (t : Thread) (c : Control) : Prop :=
  match t.spot with
  | .complainingAgain _ _ => c.state = .joined
  | .finishing (.returned _) => c.state = .joined
  | .ended (.returned _) => c.state = .joined
  | .finishing .panicked => False
  | .ended .panicked => False
  | _ => True

/-- Nobody takes a thread back from `joined`. -/
theorem HasClosed.grow (closed : t.HasClosed c) (grows : c.state = .joined → c'.state = .joined) :
    t.HasClosed c' := by
  unfold HasClosed at closed ⊢
  cases here : t.spot with
  | complainingAgain _ _ =>
    rw [here] at closed
    exact grows closed
  | finishing fate | ended fate =>
    rw [here] at closed
    cases fate with
    | returned _ => exact grows closed
    | panicked => exact closed
  | _ => trivial

theorem up_firstLoop (t : Thread) : t.firstLoop.spot ≠ .panicked := by
  unfold firstLoop
  dsimp only
  split
  · simp [Loop.aperiodic]
  · split
    · exact Loop.up_sleepTo _ _
    · simp [Loop.fail]

theorem hasClosed_proceed {l : Loop} (up : l.spot ≠ .panicked) (t : Thread) (c : Control) :
    (t.proceed l).HasClosed c := by
  unfold proceed
  split
  · trivial
  · rename_i down
    exact (up down).elim
  · trivial

theorem hasClosed_flush (t : Thread) (outcome : Result Nat) (sink : Sink) (c : Control) :
    (t.flush outcome sink).HasClosed c := by
  unfold flush
  split
  · trivial
  · dsimp only
    split
    · trivial
    · split <;> trivial

theorem hasClosed_step (meets : t.next.Meets e t') (moves : e.Moves c c') (whole : e ≠ .jobEnd .panicked)
    (closed : t.HasClosed c) : t'.HasClosed c' := by
  unfold HasClosed at closed
  cases here : t.spot with
  | looping l =>
    rw [Thread.next, here] at meets
    obtain ⟨l', inner, rfl⟩ := Action.meets_map meets
    exact hasClosed_proceed (Loop.up_of_did (Loop.did_of_meets inner) whole) t c'
  | admission =>
    rw [Thread.next, here] at meets
    cases meets with
    | ask _ _ outcome => cases outcome <;> trivial
  | admitted =>
    rw [Thread.next, here] at meets
    cases meets
    exact hasClosed_proceed t.up_firstLoop t c'
  | leaving outcome sink =>
    rw [Thread.next, here] at meets
    cases meets
    cases outcome with
    | ok n => exact t.hasClosed_flush _ _ c'
    | error e => trivial
  | complaining e sink =>
    rw [Thread.next, here] at meets
    cases meets
    exact t.hasClosed_flush _ _ c'
  | warning _ _ _ _ | writing _ _ _ =>
    rw [Thread.next, here] at meets
    cases meets
    trivial
  | closing outcome report =>
    -- Every way to the end of a thread that is not brought down comes by here.
    rw [Thread.next, here] at meets
    cases meets
    obtain ⟨rfl, rfl⟩ := moves
    cases outcome with
    | ok _ => exact Control.joined_advance _
    | error _ => cases report <;> exact Control.joined_advance _
  | complainingAgain _ _ =>
    rw [Thread.next, here] at meets
    rw [here] at closed
    cases meets
    cases moves
    exact closed
  | finishing fate =>
    rw [Thread.next, here] at meets
    rw [here] at closed
    cases meets
    obtain ⟨rfl, rfl⟩ := moves
    cases fate with
    | returned _ => exact closed
    | panicked => exact closed
  | ended _ => rw [Thread.next, here] at meets; cases meets

theorem spot_of_isOver (through : t.isOver = true) : ∃ fate, t.spot = .ended fate := by
  unfold isOver at through
  split at through
  · rename_i fate here
    exact ⟨fate, here⟩
  · cases through

/-- A thread that has ended has nothing left to do. -/
theorem next_of_isOver (through : t.isOver = true) : t.next = .idle := by
  obtain ⟨fate, here⟩ := spot_of_isOver through
  rw [Thread.next, here]

/-- A thread that has ended and closed has returned. -/
theorem returned_of_closed (closed : t.HasClosed c) (through : t.isOver = true) :
    (∃ outcome, t.end? = some (.returned outcome)) ∧ c.state = .joined := by
  obtain ⟨fate, here⟩ := spot_of_isOver through
  unfold HasClosed at closed
  rw [here] at closed
  cases fate with
  | returned outcome => exact ⟨⟨outcome, by rw [end?, here]⟩, closed⟩
  | panicked => exact closed.elim

end Thread

/-! ## What a step is for a started task -/

/-- A turn leads to a state, where a job that ends has not failed. -/
inductive Turn.Spins {σ : Type} : Turn σ → σ → Prop
  | go (s : σ) : Spins (.go s) s
  | ask (request : Request) (next : Result Unit → σ) (outcome : Result Unit) :
      Spins (.ask request next) (next outcome)
  | readClock (next : Result Time → σ) (now : Result Time) : Spins (.readClock next) (next now)
  | finishJob (next : JobEnd → σ) : Spins (.finishJob next) (next (.finished (.ok ())))

theorem Turn.Spins.leads {σ : Type} {turn : Turn σ} {s : σ} (spins : turn.Spins s) : turn.Leads s := by
  cases spins with
  | go => exact .go s
  | ask request next outcome => exact .ask request next outcome
  | readClock next now => exact .readClock next now
  | finishJob next => exact .finishJob next _

theorem Turn.Spins.of_readClock {σ : Type} {turn : Turn σ} {next : Result Time → σ} {t : σ} (now : Result Time)
    (step : turn = .readClock next) (same : next now = t) : turn.Spins t := by
  subst step same
  exact .readClock next now

/-- The turn of a whole is the turn of its part. -/
theorem Turn.Spins.of_map {σ τ : Type} {f : σ → τ} {turn : Turn σ} {t : τ} (spins : (turn.map f).Spins t) :
    ∃ s, turn.Spins s ∧ f s = t := by
  cases turn with
  | idle => cases spins
  | blocked => cases spins
  | go s =>
    cases spins
    exact ⟨s, .go s, rfl⟩
  | ask request next =>
    cases spins with
    | ask _ _ outcome => exact ⟨next outcome, .ask request next outcome, rfl⟩
  | readClock next =>
    cases spins with
    | readClock _ now => exact ⟨next now, .readClock next now, rfl⟩
  | finishJob next =>
    cases spins
    exact ⟨_, .finishJob next, rfl⟩

namespace Live

variable {l l' : LiveTask}

/-- A step of a task whose jobs are busy loops: a turn of its thread, or an end of its wait that nobody
asked for. -/
inductive Goes (l : LiveTask) : LiveTask → Prop
  | turn {l' : LiveTask} (spins : (l.turn Thread.next).Spins l') : Goes l l'
  /-- A signal interrupts the sleep of the wait. -/
  | interruption {next : Result WaitOutcome → Thread} (awaits : l.machine.next = .awaitRelease next)
      (asleep : l.wait = .asleep) : Goes l { l with wait := .look }
  /-- The system fails the wait. -/
  | failure {next : Result WaitOutcome → Thread} (e : Error) (awaits : l.machine.next = .awaitRelease next) :
      Goes l { l with machine := next (.error e), wait := .look }

/-- Where a step of the task leads: its thread meets an event, and no job brings it down, or stays. -/
theorem met_of_goes (goes : l.Goes l') :
    (∃ e, e ≠ .jobEnd .panicked ∧ l.machine.next.Meets e l'.machine ∧ e.Moves l.control l'.control) ∨
      l'.machine = l.machine ∧ l'.control = l.control := by
  cases goes with
  | interruption => exact .inr ⟨rfl, rfl⟩
  | failure e awaits =>
    refine .inl ⟨.waitEnd (.error e), nofun, ?_, rfl⟩
    rw [awaits]
    exact .awaitRelease _ _
  | turn spins =>
    cases action : l.machine.next with
    | finishJob k =>
      -- Only here the turn says more than that it leads somewhere.
      have turn : l.turn Thread.next = .finishJob fun r => { l with machine := k r } := by
        rw [Live.turn, action]
      rw [turn] at spins
      cases spins
      exact .inl ⟨.jobEnd (.finished (.ok ())), nofun, .finishJob _ _, rfl⟩
    | _ =>
      rcases moved_of_leads spins.leads with ⟨meets, moves, -⟩ | ⟨-, -, machine, control⟩
      · refine .inl ⟨_, ?_, action ▸ meets, moves⟩
        rintro rfl
        rw [action] at meets
        cases meets
      · exact .inr ⟨machine, control⟩

/-- A control that shows where the thread stands, and a thread that closed its log before it ended. -/
structure Sound (l : LiveTask) : Prop where
  shows : l.machine.Shows l.control
  closed : l.machine.HasClosed l.control

def HasEnded (l : LiveTask) : Prop := l.machine.isOver = true

def WasStopped (l : LiveTask) : Prop := l.control.stopped = true

/-- A sound task that has come at least as far. -/
structure Onward (l l' : LiveTask) : Prop where
  sound : l'.Sound
  ended : l.HasEnded → l'.HasEnded
  stopped : l.WasStopped → l'.WasStopped

theorem Onward.refl (sound : l.Sound) : l.Onward l := ⟨sound, id, id⟩

theorem onward_of_goes (sound : l.Sound) (goes : l.Goes l') : l.Onward l' := by
  rcases met_of_goes goes with ⟨e, whole, meets, moves⟩ | ⟨machine, control⟩
  · obtain ⟨shows, stopped, -⟩ := Thread.shows_step meets moves sound.shows
    refine ⟨⟨shows, Thread.hasClosed_step meets moves whole sound.closed⟩, ?_, stopped.trans⟩
    intro through
    rw [Thread.next_of_isOver through] at meets
    cases meets
  · refine ⟨⟨?_, ?_⟩, ?_, ?_⟩
    · rw [machine, control]
      exact sound.shows
    · rw [machine, control]
      exact sound.closed
    · intro through
      rw [HasEnded, machine]
      exact through
    · intro stop
      rw [WasStopped, control]
      exact stop

/-- A release is nothing to the thread until it waits. -/
theorem onward_release (sound : l.Sound) : l.Onward l.release.2 := ⟨⟨sound.shows, sound.closed⟩, id, id⟩

end Live

/-- No call takes a task back from `joined`. -/
theorem StopCall.joined_of_meets {call call' : StopCall} {e : Event} {c c' : Control}
    (meets : call.next.Meets e call') (moves : e.Moves c c') (joined : c.state = .joined) :
    c'.state = .joined := by
  cases here : call.spot with
  | advance =>
    rw [StopCall.next, here] at meets
    cases meets
    obtain ⟨rfl, rfl⟩ := moves
    exact Control.advance_joined joined _
  | raise | cancel | lookFinished _ | lookInWait _ | signal =>
    rw [StopCall.next, here] at meets
    cases meets
    obtain ⟨rfl, rfl⟩ := moves
    exact joined
  | pausing _ | complaining _ =>
    rw [StopCall.next, here] at meets
    cases meets
    cases moves
    exact joined
  | returned => rw [StopCall.next, here] at meets; cases meets

/-- With its first step a call has asked for the stop. -/
theorem StopCall.asked_of_meets {call call' : StopCall} {e : Event} {c c' : Control}
    (meets : call.next.Meets e call') (moves : e.Moves c c') (asked : call.spot = .raise ∨ c.stopped = true) :
    c'.stopped = true := by
  rcases asked with here | stopped
  · rw [StopCall.next, here] at meets
    cases meets
    obtain ⟨rfl, rfl⟩ := moves
    rfl
  · exact (handled_of_meets meets moves).stopped stopped

namespace Live

variable {l l' : LiveTask} {call call' : StopCall}

theorem onward_stopTurn (sound : l.Sound) (leads : (l.stopTurn call).Leads (l', call')) : l.Onward l' := by
  obtain ⟨e, stopped⟩ := stopped_of_leads leads
  have handled := StopCall.handled_of_meets stopped.meets stopped.moves
  refine ⟨⟨⟨?_, ?_⟩, ?_⟩, ?_, handled.stopped⟩
  · rw [handled.inWait, stopped.machine]
    exact sound.shows.inWait
  · rw [handled.finished, stopped.machine]
    exact sound.shows.finished
  · rw [stopped.machine]
    exact sound.closed.grow (StopCall.joined_of_meets stopped.meets stopped.moves)
  · intro through
    rw [HasEnded, stopped.machine]
    exact through

theorem wasStopped_stopTurn (leads : (l.stopTurn call).Leads (l', call'))
    (asked : call.spot = .raise ∨ l.WasStopped) : l'.WasStopped := by
  obtain ⟨e, stopped⟩ := stopped_of_leads leads
  exact StopCall.asked_of_meets stopped.meets stopped.moves asked

end Live

end TaskTiming
