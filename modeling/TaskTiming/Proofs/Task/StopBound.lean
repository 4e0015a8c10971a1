import TaskTiming.Proofs.Task.History

/-!
# A stop is bounded

Whenever somebody asks a task to stop, and whatever else happens meanwhile, at most one more of its jobs
starts, and none if a job is running (`Thread.mayStart`). A job that runs is left to its own end, and the
thread does not show that it waits (`stop_is_bounded`).
-/

namespace TaskTiming
set_option autoImplicit false

/-! ## Loops -/

namespace Loop

/-- A job may still start though a stop was asked for: the loop is past its last look for one. -/
def mayStart (l : Loop) : Bool :=
  match l.spot with
  | .sleep => true
  | .enter => true
  | .wait => true
  | .lower _ => true
  | .clockIn => true
  | .job _ => true
  | _ => false

variable {l l' : Loop} {e : Event} {c c' : Control}

theorem isWorking_released (l : Loop) : l.released.isWorking = false := by
  rcases l.spot_released with ⟨here, -⟩ | here | here <;> simp [isWorking, here]

theorem isWorking_toJob (l : Loop) : l.toJob.isWorking = false := by
  rcases l.spot_toJob with here | here <;> simp [isWorking, here]

theorem isWorking_sleepTo (l : Loop) (release : Time) : (l.sleepTo release).isWorking = false := by
  rcases l.spot_sleepTo release with here | ⟨e, here⟩ <;> simp [isWorking, here]

theorem isWorking_again (l : Loop) : l.again.isWorking = false := by
  rcases l.spot_again with here | here | ⟨e, here⟩ <;> simp [isWorking, here]

theorem isWorking_jobDone (l : Loop) : l.jobDone.isWorking = false := by
  rcases l.spot_jobDone with here | ⟨n, here⟩ <;> simp [isWorking, here]

theorem mayStart_jobDone (l : Loop) : l.jobDone.mayStart = false := by
  rcases l.spot_jobDone with here | ⟨n, here⟩ <;> simp [mayStart, here]

/-- A job that has started and not ended runs. -/
theorem jobs_step (did : l.Did e l') :
    e.isStart.toNat + l.isWorking.toNat = e.isEnd.toNat + l'.isWorking.toNat := by
  cases did with
  | slept here =>
    have idle : l.isWorking = false := by simp [isWorking, here]
    simp [idle, l.isWorking_released, Event.isStart, Event.isEnd]
  | entered here =>
    have idle : l.isWorking = false := by simp [isWorking, here]
    simp [idle, l.isWorking_toJob, Event.isStart, Event.isEnd]
  | released here =>
    have idle : l.isWorking = false := by simp [isWorking, here]
    simp [idle, l.isWorking_released, Event.isStart, Event.isEnd]
  | counted here =>
    have busy : l.isWorking = true := by simp [isWorking, here]
    simp [busy, l.isWorking_jobDone, Event.isStart, Event.isEnd]
  | clockedOut here =>
    have idle : l.isWorking = false := by simp [isWorking, here]
    simp [idle, isWorking_jobDone, Event.isStart, Event.isEnd]
  | wentOn here =>
    have idle : l.isWorking = false := by simp [isWorking, here]
    simp [idle, l.isWorking_again, Event.isStart, Event.isEnd]
  | _ here => simp [fail, isWorking, here, Event.isStart, Event.isEnd]

/-- Each job that starts after a stop was asked for is the last one to. -/
theorem mayStart_step (did : l.Did e l') (moves : e.Moves c c') (stop : c.stopped = true) :
    e.isStart.toNat + l'.mayStart.toNat ≤ l.mayStart.toNat := by
  cases did with
  | slept here => simp [mayStart, here, Event.isStart, Bool.toNat_le]
  | entered here => simp [mayStart, here, Event.isStart, Bool.toNat_le]
  | released here => simp [mayStart, here, Event.isStart, Bool.toNat_le]
  | unwarned here unasked =>
    obtain ⟨rfl, -⟩ := moves
    rw [unasked] at stop
    cases stop
  | counted here => simp [mayStart_jobDone, Event.isStart]
  | clockedOut here => simp [mayStart_jobDone, Event.isStart]
  | wentOn here unasked =>
    obtain ⟨rfl, -⟩ := moves
    rw [unasked] at stop
    cases stop
  | _ here => simp [fail, mayStart, here, Event.isStart]

/-- At most how many steps are left until the first job of a periodic loop starts. -/
def ahead? (l : Loop) : Option Nat :=
  match l.spot with
  | .sleep => some 4
  | .enter => some 3
  | .clockIn => some 2
  | .job _ => some 1
  | _ => none

/-- A loop comes closer to the start of its first job, however its flags are, unless the system refuses. -/
theorem ahead_step {n : Nat} (did : l.Did e l') (ahead : l.ahead? = some n) :
    e.refuses = true ∨ e.isStart = true ∨ ∃ n', l'.ahead? = some n' ∧ n' < n := by
  cases did with
  | slept here =>
    have four : n = 4 := by simpa [ahead?, here, eq_comm] using ahead
    refine .inr (.inr ?_)
    rcases l.spot_released with ⟨there, -⟩ | there | there <;> simp [ahead?, there, four]
  | entered here =>
    have three : n = 3 := by simpa [ahead?, here, eq_comm] using ahead
    refine .inr (.inr ?_)
    rcases l.spot_toJob with there | there <;> simp [ahead?, there, three]
  | clockedIn here start =>
    have two : n = 2 := by simpa [ahead?, here, eq_comm] using ahead
    exact .inr (.inr ⟨1, rfl, by omega⟩)
  | started => exact .inr (.inl rfl)
  | sleepless | clocklessIn => exact .inl rfl
  | _ here => simp [ahead?, here] at ahead

end Loop

/-! ## Threads -/

namespace Thread

/-- A job is running. -/
def isWorking (t : Thread) : Bool :=
  match t.spot with
  | .looping l => l.isWorking
  | _ => false

/-- A job may still start though a stop was asked for. -/
def mayStart (t : Thread) : Bool :=
  match t.spot with
  | .admission => true
  | .admitted => true
  | .looping l => l.mayStart
  | _ => false

variable {t t' : Thread} {e : Event} {c c' : Control}

/-- A job runs where the next step is its end. -/
theorem isWorking_iff (t : Thread) : t.isWorking = true ↔ ∃ next, t.next = .finishJob next := by
  constructor
  · intro works
    cases here : t.spot with
    | looping l =>
      cases spot : l.spot with
      | working start => exact ⟨_, by simp only [Thread.next, here, Loop.next, spot, Action.map]; rfl⟩
      | _ => simp [isWorking, here, Loop.isWorking, spot] at works
    | _ => simp [isWorking, here] at works
  · rintro ⟨next, finishes⟩
    cases here : t.spot with
    | looping l =>
      cases spot : l.spot with
      | working start => simp [isWorking, here, Loop.isWorking, spot]
      | _ =>
        simp only [Thread.next, here, Loop.next, spot] at finishes
        cases finishes
    | _ => rw [Thread.next, here] at finishes; cases finishes

theorem isWorking_proceed (t : Thread) (l : Loop) : (t.proceed l).isWorking = l.isWorking := by
  unfold Thread.proceed
  split
  · rename_i here
    simp [isWorking, Loop.isWorking, here]
  · rename_i here
    simp [isWorking, Loop.isWorking, here]
  · rfl

theorem mayStart_proceed (t : Thread) (l : Loop) : (t.proceed l).mayStart = l.mayStart := by
  unfold Thread.proceed
  split
  · rename_i here
    simp [mayStart, Loop.mayStart, here]
  · rename_i here
    simp [mayStart, Loop.mayStart, here]
  · rfl

theorem isWorking_firstLoop (t : Thread) : t.firstLoop.isWorking = false := by
  unfold Thread.firstLoop
  dsimp only
  split
  · rfl
  · split
    · exact Loop.isWorking_sleepTo _ _
    · rfl

theorem isWorking_of_through (through : t.isThrough = true) : t.isWorking = false := by
  cases here : t.spot with
  | looping l => simp [isThrough, here] at through
  | _ => simp [isWorking, here]

theorem mayStart_of_through (through : t.isThrough = true) : t.mayStart = false := by
  cases here : t.spot with
  | admission | admitted | looping _ => simp [isThrough, here] at through
  | _ => simp [mayStart, here]

theorem mayStart_of_working (works : t.isWorking = true) : t.mayStart = false := by
  cases here : t.spot with
  | looping l =>
    cases spot : l.spot with
    | working start => simp [mayStart, here, Loop.mayStart, spot]
    | _ => simp [isWorking, here, Loop.isWorking, spot] at works
  | _ => simp [isWorking, here] at works

/-- The `inWait` flag is down while a job runs. -/
theorem isFlagged_of_working (works : t.isWorking = true) : t.isFlagged = false := by
  cases here : t.spot with
  | looping l =>
    cases spot : l.spot with
    | working start => simp [isFlagged, here, Loop.Spot.isFlagged, spot]
    | _ => simp [isWorking, here, Loop.isWorking, spot] at works
  | _ => simp [isWorking, here] at works

theorem isFlagged_of_through (through : t.isThrough = true) : t.isFlagged = false := by
  cases here : t.spot with
  | looping l => simp [isThrough, here] at through
  | _ => simp [isFlagged, here]

/-- A job that has started and not ended runs. -/
theorem jobs_step (did : t.Did e t') :
    e.isStart.toNat + t.isWorking.toNat = e.isEnd.toNat + t'.isWorking.toNat := by
  cases did with
  | looped here did =>
    have now := Loop.jobs_step did
    rw [isWorking_proceed]
    simpa [isWorking, here] using now
  | admitted here | refused here => simp [isWorking, here, Event.isStart, Event.isEnd]
  | released here =>
    have idle : t.isWorking = false := by simp [isWorking, here]
    simp [idle, isWorking_proceed, isWorking_firstLoop, Event.isStart, Event.isEnd]
  | closed here through noStart noEnd =>
    simp [isWorking_of_through here, isWorking_of_through through, noStart, noEnd]

/-- Each job that starts after a stop was asked for is the last one to. -/
theorem mayStart_step (did : t.Did e t') (moves : e.Moves c c') (stop : c.stopped = true) :
    e.isStart.toNat + t'.mayStart.toNat ≤ t.mayStart.toNat := by
  cases did with
  | looped here did =>
    have now := Loop.mayStart_step did moves stop
    rw [mayStart_proceed]
    simpa [mayStart, here] using now
  | admitted here | refused here => simp [mayStart, here, Event.isStart]
  | released here => simp [mayStart, here, Event.isStart, Bool.toNat_le]
  | closed here through noStart => simp [mayStart_of_through here, mayStart_of_through through, noStart]

/-- The thread of a periodic task before its first job, which starts with one of its next `n` steps. -/
inductive Nearing (task : ReadyTask) (t : Thread) : Nat → Prop
  | admission (here : t.spot = .admission) (same : t.task = task) : Nearing task t 6
  | admitted (here : t.spot = .admitted) (same : t.task = task) : Nearing task t 5
  | looping {l : Loop} {n : Nat} (here : t.spot = .looping l) (ahead : l.ahead? = some n) : Nearing task t n

/-- A loop that has not run its first job goes on. -/
theorem nearing_proceed {task : ReadyTask} {l : Loop} {n : Nat} (ahead : l.ahead? = some n) :
    (t.proceed l).Nearing task n := by
  refine .looping (l := l) ?_ ahead
  unfold Thread.proceed
  split
  · rename_i here
    simp [Loop.ahead?, here] at ahead
  · rename_i here
    simp [Loop.ahead?, here] at ahead
  · rfl

/-- A periodic task whose first release the system can sleep to begins with that sleep. -/
theorem ahead_firstLoop {first : Time} (periodic : t.task.params.release = .periodic)
    (release : t.task.t0.add? t.task.params.offset = .ok first) (fits : first.FitsNative) :
    t.firstLoop.ahead? = some 4 := by
  unfold Thread.firstLoop Loop.periodic
  simp only [periodic, release, Loop.sleepTo_of_fits fits]
  rfl

theorem nearing_step {task : ReadyTask} {n : Nat} (did : t.Did e t') (near : t.Nearing task n)
    (periodic : task.params.release = .periodic) {first : Time}
    (release : task.t0.add? task.params.offset = .ok first) (fits : first.FitsNative) :
    e.refuses = true ∨ e.isStart = true ∨ ∃ n', t'.Nearing task n' ∧ n' < n := by
  cases near with
  | admission here same =>
    cases did with
    | admitted => exact .inr (.inr ⟨5, .admitted rfl same, by omega⟩)
    | refused => exact .inl rfl
    | looped there | released there => simp [here] at there
    | closed through => simp [isThrough, here] at through
  | admitted here same =>
    cases did with
    | released =>
      subst same
      exact .inr (.inr ⟨4, nearing_proceed (ahead_firstLoop periodic release fits), by omega⟩)
    | looped there | admitted there | refused there => simp [here] at there
    | closed through => simp [isThrough, here] at through
  | looping here ahead =>
    cases did with
    | looped there did =>
      rw [here] at there
      cases there
      rcases Loop.ahead_step did ahead with refused | starts | ⟨n', ahead', closer⟩
      · exact .inl refused
      · exact .inr (.inl starts)
      · exact .inr (.inr ⟨n', nearing_proceed ahead', closer⟩)
    | admitted there | refused there | released there => simp [here] at there
    | closed through => simp [isThrough, here] at through

theorem Nearing.ahead {task : ReadyTask} {n : Nat} (near : t.Nearing task n) :
    0 < n ∧ t.isThrough = false := by
  cases near with
  | admission here | admitted here => simp [isThrough, here]
  | looping here ahead =>
    rename_i l
    refine ⟨?_, by simp [isThrough, here]⟩
    unfold Loop.ahead? at ahead
    split at ahead <;> cases ahead <;> omega

end Thread

/-! ## Histories -/

namespace Company

variable {c₀ c c' : Company} {a : Actor} {events : List Event}

/-- A job is running: the thread's next step is its end. -/
def Works (c : Company) : Prop := ∃ next, c.live.machine.next = .finishJob next

theorem works_iff : c.Works ↔ c.live.machine.isWorking = true := c.live.machine.isWorking_iff.symm

/-- Of the jobs that start in a history, and the one that runs at its beginning, all end but the one that
runs at its end. -/
theorem History.jobs (history : History c₀ events c) :
    starts events + c₀.live.machine.isWorking.toNat = ends events + c.live.machine.isWorking.toNat := by
  induction history with
  | start => rfl
  | met _ _ meets _ ih =>
    have now := Thread.jobs_step (Thread.did_of_meets meets)
    rw [starts_snoc, ends_snoc]
    omega
  | apart _ _ machine _ ih =>
    rw [machine]
    exact ih

/-- How many jobs start after a stop was asked for. -/
theorem History.starts_le (history : History c₀ events c)
    (shown : c₀.live.machine.Shows c₀.live.control) (stop : c₀.live.control.stopped = true) :
    starts events + c.live.machine.mayStart.toNat ≤ c₀.live.machine.mayStart.toNat := by
  induction history with
  | start => simp [starts]
  | met before _ meets moves ih =>
    have now := Thread.mayStart_step (Thread.did_of_meets meets) moves (before.stopped shown stop)
    rw [starts_snoc]
    omega
  | apart _ _ machine _ ih =>
    rw [machine]
    exact ih

/-- A periodic thread that the system refuses nothing has started a job or is on its way to its first. -/
theorem History.nearing {task : ReadyTask} {admission : Admission} {first : Time}
    (history : History (Company.start task admission) events c) (periodic : task.params.release = .periodic)
    (release : task.t0.add? task.params.offset = .ok first) (fits : first.FitsNative)
    (granted : ∀ e ∈ events, e.refuses = false) :
    1 ≤ starts events ∨ ∃ n, c.live.machine.Nearing task n ∧ events.length + n ≤ 6 := by
  induction history with
  | start => exact .inr ⟨6, .admission rfl rfl, Nat.le_refl 6⟩
  | met _ _ meets _ ih =>
    rename_i e _ _ _
    have refused := granted e (List.mem_append_right _ (List.mem_singleton.2 rfl))
    rw [starts_snoc, List.length_append]
    rcases ih fun e mem => granted e (List.mem_append_left _ mem) with begun | ⟨n, near, few⟩
    · exact .inl (by omega)
    · rcases Thread.nearing_step (Thread.did_of_meets meets) near periodic release fits with
        refuses | start | ⟨n', near', closer⟩
      · simp [refused] at refuses
      · simp [start]
      · exact .inr ⟨n', near', by simp; omega⟩
  | apart _ _ machine _ ih =>
    rw [machine]
    exact ih granted

/-! ## Stopping -/

/-- What holds of a task after a history, whoever stops it and when. -/
structure StopBounded (task : ReadyTask) (events : List Event) (c : Company) : Prop where
  /-- Once a stop was asked for, at most one more job starts. -/
  bounded : c.live.control.stopped = true → ∀ later c', History c later c' → starts later ≤ 1
  /-- None starts if a job is running. -/
  inside : c.live.control.stopped = true → c.Works → ∀ later c', History c later c' → starts later = 0
  /-- Every job that started and does not run has ended. -/
  ended : (c.Works → starts events = ends events + 1) ∧ (¬c.Works → starts events = ends events)
  /-- Nobody's step takes the thread out of its job, but the end of the job. -/
  undisturbed : c.Works → ∀ a c', Step c a c' →
    c'.live.machine = c.live.machine ∨
      ∃ outcome, c.live.machine.next.Meets (.jobEnd outcome) c'.live.machine
  /-- The job may end at any time, in any way. -/
  free : c.Works → ∀ outcome, ∃ c', Step c .thread c' ∧
    c.live.machine.next.Meets (.jobEnd outcome) c'.live.machine
  /-- The thread shows no wait while a job runs, nor after its loop. -/
  lowered : c.Works ∨ c.live.machine.isThrough = true → c.live.control.inWait = false
  /-- A periodic thread starts a job with one of its first six steps, and in any case before its loop is
  over, unless the system refuses it something or has no such instant as its first release. -/
  first : task.params.release = .periodic →
    ∀ release, task.t0.add? task.params.offset = .ok release → release.FitsNative →
    (∀ e ∈ events, e.refuses = false) → 6 ≤ events.length ∨ c.live.machine.isThrough = true →
    1 ≤ starts events

/-- **A stop is bounded and never acts inside a job**, in whatever order the steps of a task's thread, of
calls to stop the task and of releases are taken. -/
theorem stop_is_bounded {task : ReadyTask} {admission : Admission}
    (history : History (Company.start task admission) events c) : c.StopBounded task events := by
  have shown := history.shows ⟨rfl, rfl⟩
  have jobs := history.jobs
  have unstarted : (Company.start task admission).live.machine.isWorking = false := rfl
  refine {
    bounded := ?_, inside := ?_, ended := ?_, undisturbed := ?_, free := ?_, lowered := ?_, first := ?_ }
  · intro stop later c' further
    have few := further.starts_le shown stop
    have most := Bool.toNat_le c.live.machine.mayStart
    omega
  · intro stop works later c' further
    have few := further.starts_le shown stop
    have none := Thread.mayStart_of_working (works_iff.1 works)
    simp [none] at few
    exact few.1
  · rw [works_iff]
    constructor
    · intro works
      simpa [works, unstarted] using jobs
    · intro idle
      simpa [idle, unstarted] using jobs
  · rintro ⟨next, works⟩ a c' step
    rcases step.effect with ⟨meets, -⟩ | ⟨machine, -⟩
    · right
      generalize c'.live.machine = after at meets
      rw [works] at meets ⊢
      cases meets
      exact ⟨_, .finishJob _ _⟩
    · exact .inl machine
  · rintro ⟨next, works⟩ outcome
    have turn : c.live.turn Thread.next = .finishJob fun r => { c.live with machine := next r } := by
      rw [Live.turn, works]
    refine ⟨{ c with live := { c.live with machine := next outcome } }, .thread ?_, ?_⟩
    · rw [turn]
      exact .finishJob _ _
    · rw [works]
      exact .finishJob _ _
  · rw [works_iff]
    intro place
    rw [shown.inWait]
    rcases place with works | through
    · exact Thread.isFlagged_of_working works
    · exact Thread.isFlagged_of_through through
  · intro periodic release instant fits granted far
    rcases history.nearing periodic instant fits granted with begun | ⟨n, near, few⟩
    · exact begun
    · obtain ⟨pos, short⟩ := near.ahead
      rcases far with long | through
      · omega
      · simp [short] at through

/-- A stopper sees the thread wait, and a release comes before the stopper cancels the wait: the token is
raised while the job runs, which is not disturbed, shows no wait and is the last one to start. -/
theorem stop_is_bounded_cancelled_late :
    let task : ReadyTask := {
      params := .aperiodic "tau" (.ofSecs 1) (.ofSecs 2), t0 := .zero, ring := none
      log := { bytes := [], samples := 0 }, path := ⟨"log"⟩ }
    ∃ events c, History (Company.start task .bestEffort) events c ∧ c.Works ∧
      c.live.control.cancel.cancelled = true ∧ c.live.control.inWait = false ∧
      starts events = ends events + 1 ∧ ∀ later c', History c later c' → starts later = 0 := by
  intro task
  obtain ⟨c, reached, works, stop, cancelled⟩ :
      ∃ c, Reachable task .bestEffort c ∧ c.Works ∧ c.live.control.stopped = true ∧
        c.live.control.cancel.cancelled = true := by
    have begun : Reachable task .bestEffort _ := .start
    have raising := ((begun.step (.thread (.ask _ _ (.ok ())))).step (.thread (.go _))).step (.thread (.go _))
    have asleep := (raising.step (.thread (.go _))).step (.thread (.go _))
    have raised := (asleep.step (.newCall _)).step (.call (i := 0) rfl (.go _))
    have polling := (raised.step (.call (i := 0) rfl (.go _))).step (.call (i := 0) rfl (.go _))
    have cancelling := polling.step (.call (i := 0) rfl (.go _))
    have woken := (cancelling.step (.release _)).step (.thread (.go _))
    have released := ((woken.step (.thread (.go _))).step (.thread (.go _))).step (.thread (.go _))
    have working := (released.step (.thread (.go _))).step (.thread (.ask _ _ (.ok ())))
    have cancelled := working.step (.call (i := 0) rfl (.go _))
    exact ⟨_, cancelled, ⟨_, rfl⟩, rfl, rfl⟩
  obtain ⟨events, history⟩ := reached.history
  have bounded := stop_is_bounded history
  exact ⟨events, c, history, works, cancelled, bounded.lowered (.inl works), bounded.ended.1 works,
    bounded.inside stop works⟩

end Company

end TaskTiming
