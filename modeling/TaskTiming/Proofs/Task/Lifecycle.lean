import TaskTiming.Proofs.Task.Flushing
import TaskTiming.Proofs.Task.StateOrder

/-!
# What the state of a task tells

Anyone may look at the state of a task at any time. What is seen there is never taken back, a stop least of
all, and it is true (`Company.Telling`): `running` is seen only when the first release is over, and `joined`
only when the samples are written, or could not be.
-/

namespace TaskTiming
set_option autoImplicit false

/-- A thread enters `joined` with the answer of its flush in its hand. -/
theorem Thread.spot_of_entered {t : Thread} (entered : t.entered? = some .joined) :
    ∃ outcome answer, t.spot = .closing outcome answer := by
  unfold Thread.entered? at entered
  cases here : t.spot with
  | closing outcome answer => exact ⟨outcome, answer, rfl⟩
  | looping l =>
    rw [here] at entered
    dsimp only at entered
    cases spot : l.spot <;> rw [spot] at entered <;> cases entered
  | _ => rw [here] at entered; cases entered

namespace Company

variable {c₀ c c' : Company} {events : List Event}

/-- What the thread meets in a history is a run of it. -/
theorem History.run (history : History c₀ events c) :
    Run Thread.next c₀.live.machine events c.live.machine := by
  induction history with
  | start => exact .nil _
  | met _ _ meets _ ih => exact ih.snoc meets
  | apart _ _ machine _ ih =>
    rw [machine]
    exact ih

/-- **Nobody sees `joined` before the flush has ended.** -/
theorem History.flushed (history : History c₀ events c) (early : c₀.live.control.state ≠ .joined)
    (joined : c.live.control.state = .joined) :
    ∃ answer, c₀.live.machine.Flushed answer events c.live.machine := by
  induction history with
  | start => exact (early joined).elim
  | @met _ c _ _ _ before _ meets moves ih =>
    by_cases already : c.live.control.state = .joined
    · obtain ⟨answer, flushed⟩ := ih already
      exact ⟨answer, flushed.snoc meets⟩
    · rw [Thread.state_of_meets meets moves] at joined
      obtain ⟨outcome, answer, here⟩ := Thread.spot_of_entered (TaskState.entered_of_after already joined)
      have machine := before.machine
      rw [here] at machine
      have run := before.run
      rw [machine] at run meets
      exact ⟨answer, .intro run (.cons meets (.nil _))⟩
  | @apart _ c _ _ _ step machine _ ih =>
    rw [machine]
    by_cases already : c.live.control.state = .joined
    · exact ih already
    rcases step.enters with ⟨meets, state⟩ | ⟨spot, -, state⟩ | ⟨-, state⟩
    · -- The step into `joined` does not leave the thread where it is.
      rw [state] at joined
      obtain ⟨outcome, answer, here⟩ := Thread.spot_of_entered (TaskState.entered_of_after already joined)
      have behind := (Thread.closing_step here meets).1
      rw [machine, Thread.isBehind, here] at behind
      cases behind
    · rw [state] at joined
      have entered := TaskState.entered_of_after already joined
      cases spot <;> cases entered
    · exact (already (state.symm.trans joined)).elim

/-- What the state of a task tells whoever looks at it after a history. -/
structure Telling (p : TaskParams) (t0 : Time) (path : Path) (d : Disk) (task : ReadyTask)
    (admission : Admission) (events : List Event) (c : Company) : Prop where
  /-- Whoever looks again sees the same state or a later one. -/
  forward : ∀ later c', History c later c' → c.live.control.state.rank ≤ c'.live.control.state.rank
  /-- Once a call to stop the task has entered `stopped`, also if its thread has not been admitted yet,
  nobody sees an earlier state again. -/
  stopped : ∀ call ∈ c.calls, call.HasStopped → ∀ later c', History c later c' →
    TaskState.stopped.rank ≤ c'.live.control.state.rank
  running : c.live.control.state = .running → ∃ e ∈ events, task.IsRelease e
  joined : c.live.control.state = .joined →
    ∃ answer, (Thread.start task admission).Flushed answer events c.live.machine ∧
      ∀ report, answer = .ok report → ∀ d', Served path d events d' →
        ∃ header, (p.header t0).encode = .ok header ∧
          d'.read path = .ok (.ok (header ++ Log.records (p.logged (samplesOf events))))

/-- **States only move forward, and `joined` means flushed**, in whatever order the thread of a task, calls
to stop the task and those who release its jobs take their steps. -/
theorem states_move_forward {p : TaskParams} {t0 : Time} {path : Path} {d d₀ : Disk} {task : ReadyTask}
    (made : ReadyTask.new p t0 path d = (.ok task, d₀)) {admission : Admission}
    (history : History (Company.start task admission) events c) :
    c.Telling p t0 path d₀ task admission events := by
  obtain ⟨header, made⟩ := ReadyTask.made_of_new made
  refine { forward := ?_, stopped := ?_, running := ?_, joined := ?_ }
  · intro later c' further
    exact further.rank_le
  · intro call mem stopped later c' further
    have heeded := history.heeded (heeded_start task admission)
    exact Nat.le_trans (heeded.calls call mem stopped) further.rank_le
  · intro running
    rcases history.released with met | ⟨-, still⟩
    · exact met
    · exact (still running).elim
  · intro joined
    obtain ⟨answer, flushed⟩ := history.flushed nofun joined
    refine ⟨answer, flushed, ?_⟩
    rintro report rfl d' served
    exact ⟨header, made.encoded, flushed.read made served⟩

/-- A task is stopped before its thread is admitted: the thread goes through its loop without a job, enters
neither `released` nor `running`, and comes to `joined` with a log. -/
theorem states_move_forward_stopped_first :
    ∃ header events c,
      ReadyTask.new OneJob.params (.ofSecs 5) ⟨"log"⟩ .empty =
        (.ok (OneJob.task header), OneJob.disk header) ∧
      History (Company.start (OneJob.task header) .bestEffort) events c ∧
      (∃ call ∈ c.calls, call.HasStopped) ∧ c.live.control.state = .joined ∧
      (∀ later c', History c later c' → TaskState.joined.rank ≤ c'.live.control.state.rank) ∧
      ∃ answer, (Thread.start (OneJob.task header) .bestEffort).Flushed answer events c.live.machine := by
  obtain ⟨header, made⟩ := OneJob.new_eq_ok
  obtain ⟨c, reached, stopped, joined⟩ : ∃ c, Reachable (OneJob.task header) .bestEffort c ∧
      (∃ call ∈ c.calls, call.HasStopped) ∧ c.live.control.state = .joined := by
    have begun : Reachable (OneJob.task header) .bestEffort _ := .start
    have stopping := (begun.step (.newCall _)).step (.call (i := 0) rfl (.go _))
    have stopped := stopping.step (.call (i := 0) rfl (.go _))
    have raising := (stopped.step (.thread (.ask _ _ (.ok ())))).step (.thread (.go _))
    have retreating := (raising.step (.thread (.go _))).step (.thread (.go _))
    have writing := (retreating.step (.thread (.go _))).step (.thread (.go _))
    have joined := (writing.step (.thread (.ask _ _ (.ok ())))).step (.thread (.go _))
    exact ⟨_, joined, ⟨_, List.mem_singleton.2 rfl, nofun, nofun⟩, rfl⟩
  obtain ⟨events, history⟩ := reached.history
  have telling := states_move_forward made history
  obtain ⟨answer, flushed, -⟩ := telling.joined joined
  refine ⟨header, events, c, made, history, stopped, joined, fun later c' further => ?_, answer, flushed⟩
  rw [← joined]
  exact telling.forward later c' further

end Company

end TaskTiming
