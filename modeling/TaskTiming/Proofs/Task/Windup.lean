import TaskTiming.Proofs.Task.Ending
import TaskTiming.Proofs.Task.ThreadRun
import TaskTiming.Proofs.Task.Wakeup

/-!
# A stopped task comes to its end

Once a stop was asked for, a thread has few steps left, whatever it is doing (`Thread.left_step`), and it can
always take the next one unless it waits for a release (`Live.isOpen_of_running`). Only the thread of an
aperiodic task waits (`Thread.Loops.lowered`), and the call that stops it cancels the wait before it returns. The
call polls until it sees the thread wait or end, and comes nearer to that look (`StopCall.nearer_of_meets`).
-/

namespace TaskTiming
set_option autoImplicit false

/-! ## How far a thread is from its end -/

/-- At most how many steps a loop has left once a stop was asked for. -/
def Loop.Spot.left : Loop.Spot → Nat
  | .wait => 8
  | .lower _ => 7
  | .sleep => 7
  | .enter => 6
  | .clockIn => 5
  | .job _ => 4
  | .working _ => 3
  | .clockOut _ => 2
  | .raise => 3
  | .look => 2
  | .retreat => 1
  | .check => 1
  | .ended _ => 0
  | .panicked => 0

namespace Loop

variable {l l' : Loop} {e : Event} {c c' : Control}

theorem left_le (spot : Spot) : spot.left ≤ 8 := by
  cases spot <;> simp [Spot.left]

theorem left_toJob (l : Loop) : l.toJob.spot.left ≤ 5 := by
  rcases l.spot_toJob with there | there <;> simp [there, Spot.left]

theorem left_released (l : Loop) : l.released.spot.left ≤ 6 := by
  rcases l.spot_released with ⟨there, -⟩ | there | there <;> simp [there, Spot.left]

theorem left_jobDone (l : Loop) : l.jobDone.spot.left ≤ 1 := by
  rcases l.spot_jobDone with there | ⟨n, there⟩ <;> simp [there, Spot.left]

/-- A loop that is told to stop comes closer to its end. -/
theorem left_step (did : l.Did e l') (moves : e.Moves c c') (stop : c.stopped = true) :
    l'.spot.left < l.spot.left := by
  have asked {found left : Control} (moves : Event.Moves (.access found left) c c')
      (unasked : found.stopped = false) : False := by
    obtain ⟨rfl, -⟩ := moves
    rw [unasked] at stop
    cases stop
  cases did with
  | slept here | released here =>
    rw [here]
    exact Nat.lt_of_le_of_lt l.left_released (by decide)
  | entered here =>
    rw [here]
    exact Nat.lt_of_le_of_lt l.left_toJob (by decide)
  | counted here =>
    rw [here]
    exact Nat.lt_of_le_of_lt l.left_jobDone (by decide : 1 < 3)
  | clockedOut here =>
    rw [here]
    exact Nat.lt_of_le_of_lt (left_jobDone _) (by decide : 1 < 2)
  | unwarned here unasked | wentOn here unasked => exact (asked moves unasked).elim
  | _ here => simp [fail, here, Spot.left]

end Loop

/-- At most how many steps a thread has left once a stop was asked for. -/
def Thread.Spot.left : Thread.Spot → Nat
  | .admission => 17
  | .admitted => 16
  | .looping l => 7 + l.spot.left
  | .leaving _ _ => 7
  | .complaining _ _ => 6
  | .warning _ _ _ _ => 5
  | .writing _ _ _ => 4
  | .closing _ _ => 3
  | .complainingAgain _ _ => 2
  | .finishing _ => 1
  | .ended _ => 0

namespace Thread

variable {t t' : Thread} {e : Event} {c c' : Control}

theorem left_proceed (t : Thread) (l : Loop) : (t.proceed l).spot.left ≤ 7 + l.spot.left := by
  unfold proceed
  split
  · exact Nat.le_add_right 7 _
  · exact Nat.le_trans (by decide : 1 ≤ 7) (Nat.le_add_right 7 _)
  · exact Nat.le_refl _

theorem left_flush (t : Thread) (outcome : Result Nat) (sink : Sink) :
    (t.flush outcome sink).spot.left ≤ 5 := by
  unfold flush
  split
  · exact (by decide : 4 ≤ 5)
  · dsimp only
    split
    · exact (by decide : 4 ≤ 5)
    · split
      · exact Nat.le_refl 5
      · exact (by decide : 4 ≤ 5)

/-- **A thread that is told to stop comes closer to its end**, with every step that is not one of its wait. -/
theorem left_step (meets : t.next.Meets e t') (moves : e.Moves c c') (stop : c.stopped = true) :
    t'.spot.left < t.spot.left := by
  cases here : t.spot with
  | looping l =>
    rw [Thread.next, here] at meets
    obtain ⟨l', inner, rfl⟩ := Action.meets_map meets
    have closer := Loop.left_step (Loop.did_of_meets inner) moves stop
    have most := t.left_proceed l'
    show (t.proceed l').spot.left < 7 + l.spot.left
    omega
  | admission =>
    rw [Thread.next, here] at meets
    cases meets with
    | ask _ _ outcome =>
      cases outcome with
      | ok => exact (by decide : 16 < 17)
      | error e => exact (by decide : 7 < 17)
  | admitted =>
    rw [Thread.next, here] at meets
    cases meets
    have most := t.left_proceed t.firstLoop
    have few := Loop.left_le t.firstLoop.spot
    show (t.proceed t.firstLoop).spot.left < 16
    omega
  | leaving outcome sink =>
    rw [Thread.next, here] at meets
    cases meets
    cases outcome with
    | ok n => exact Nat.lt_of_le_of_lt (t.left_flush _ _) (by decide : 5 < 7)
    | error e => exact (by decide : 6 < 7)
  | complaining _ _ =>
    rw [Thread.next, here] at meets
    cases meets
    exact Nat.lt_of_le_of_lt (t.left_flush _ _) (by decide : 5 < 6)
  | warning _ _ _ _ =>
    rw [Thread.next, here] at meets
    cases meets
    exact (by decide : 4 < 5)
  | writing _ _ _ =>
    rw [Thread.next, here] at meets
    cases meets
    exact (by decide : 3 < 4)
  | closing outcome report =>
    rw [Thread.next, here] at meets
    cases meets
    cases outcome with
    | ok n => exact (by decide : 1 < 3)
    | error e =>
      cases report with
      | ok saved => exact (by decide : 1 < 3)
      | error flush => exact (by decide : 2 < 3)
  | complainingAgain _ _ =>
    rw [Thread.next, here] at meets
    cases meets
    exact (by decide : 1 < 2)
  | finishing _ =>
    rw [Thread.next, here] at meets
    cases meets
    exact (by decide : 0 < 1)
  | ended _ => rw [Thread.next, here] at meets; cases meets

end Thread

/-! ## Periodic threads do not wait -/

namespace Loop

variable {l l' : Loop} {e : Event}

/-- A periodic loop, which neither waits for a release nor is about to. -/
structure Paced (l : Loop) : Prop where
  pace : ∃ period, l.pace = .periodic period
  apart : l.spot.isFlagged = false
  below : l.spot ≠ .raise

theorem pace_released (l : Loop) : l.released.pace = l.pace := by
  unfold released
  split <;> rfl

theorem pace_sleepTo (l : Loop) (release : Time) : (l.sleepTo release).pace = l.pace := by
  unfold sleepTo
  split <;> rfl

theorem Paced.toJob (paced : l.Paced) : l.toJob.Paced where
  pace := paced.pace
  apart := l.isFlagged_toJob
  below := by rcases l.spot_toJob with there | there <;> simp [there]

theorem Paced.released (paced : l.Paced) : l.released.Paced where
  pace := by
    rw [pace_released]
    exact paced.pace
  apart := l.isFlagged_released
  below := by rcases l.spot_released with ⟨there, -⟩ | there | there <;> simp [there]

theorem Paced.sleepTo (pace : ∃ period, l.pace = .periodic period) (release : Time) :
    (l.sleepTo release).Paced where
  pace := by
    rw [pace_sleepTo]
    exact pace
  apart := l.isFlagged_sleepTo release
  below := by rcases l.spot_sleepTo release with there | ⟨e, there⟩ <;> simp [there]

theorem Paced.jobDone (pace : ∃ period, l.pace = .periodic period) : l.jobDone.Paced where
  pace := pace
  apart := l.isFlagged_jobDone
  below := by rcases l.spot_jobDone with there | ⟨n, there⟩ <;> simp [there]

theorem Paced.again (paced : l.Paced) : l.again.Paced := by
  obtain ⟨period, pace⟩ := paced.pace
  rw [again_of_periodic pace]
  split
  · exact Paced.sleepTo ⟨period, pace⟩ _
  · exact ⟨⟨period, pace⟩, rfl, nofun⟩

/-- A periodic loop stays one. -/
theorem Paced.step (paced : l.Paced) (did : l.Did e l') : l'.Paced := by
  obtain ⟨pace, apart, below⟩ := paced
  have paced : l.Paced := ⟨pace, apart, below⟩
  cases did with
  | slept => exact paced.released
  | entered => exact paced.toJob
  | counted => exact .jobDone pace
  | clockedOut => exact .jobDone pace
  | wentOn => exact paced.again
  | raised here => exact (below here).elim
  | warned here | unwarned here | retreated here | waited here | released here | cancelled here
  | unwaited here =>
    rw [here] at apart
    cases apart
  | _ => exact ⟨pace, rfl, nofun⟩

end Loop

namespace Thread

variable {t t₀ t' : Thread} {e : Event} {events : List Event}

/-- A thread in its loop has a step to take there, and that of a periodic task is in a periodic loop. -/
structure Loops (t : Thread) : Prop where
  busy : ∀ l, t.spot = .looping l → l.next ≠ .idle
  paced : t.task.params.release = .periodic → ∀ l, t.spot = .looping l → l.Paced

/-- Out of its loop nothing is asked of a thread. -/
theorem loops_of_out (out : ∀ l, t.spot ≠ .looping l) : t.Loops :=
  ⟨fun l there => (out l there).elim, fun _ l there => (out l there).elim⟩

theorem loops_proceed {l : Loop}
    (paced : t.task.params.release = .periodic → l.next ≠ .idle → l.Paced) : (t.proceed l).Loops := by
  rcases t.proceed_cases l with ⟨outcome, -, left⟩ | down | ⟨busy, going⟩
  · rw [left]
    exact loops_of_out fun _ there => by cases there
  · have brought : t.proceed l = { t with spot := .finishing .panicked } := by rw [proceed, down]
    rw [brought]
    exact loops_of_out fun _ there => by cases there
  · rw [going]
    refine ⟨?_, fun periodic => ?_⟩
    · rintro _ ⟨⟩
      exact busy
    · rintro _ ⟨⟩
      exact paced periodic busy

/-- The loop of a periodic task starts as one. -/
theorem paced_firstLoop (periodic : t.task.params.release = .periodic) (busy : t.firstLoop.next ≠ .idle) :
    t.firstLoop.Paced := by
  unfold firstLoop at busy ⊢
  simp only [periodic] at busy ⊢
  cases sum : t.task.t0.add? t.task.params.offset with
  | ok first => exact .sleepTo ⟨_, rfl⟩ first
  | error e =>
    rw [sum] at busy
    exact (busy rfl).elim

theorem Loops.step (loops : t.Loops) (meets : t.next.Meets e t') : t'.Loops := by
  cases did_of_meets meets with
  | looped here did => exact loops_proceed fun periodic _ => (loops.paced periodic _ here).step did
  | admitted here => exact loops_of_out fun _ there => by cases there
  | refused here => exact loops_of_out fun _ there => by cases there
  | released here => exact loops_proceed paced_firstLoop
  | closed here through =>
    refine loops_of_out fun l there => ?_
    rw [isThrough, there] at through
    cases through

theorem loops_of_run (run : Run Thread.next t₀ events t) (loops : t₀.Loops) : t.Loops := by
  induction run with
  | nil => exact loops
  | cons meets _ ih => exact ih (loops.step meets)

theorem loops_start (task : ReadyTask) (admission : Admission) : (start task admission).Loops :=
  loops_of_out fun _ there => by cases there

/-- A periodic thread never shows that it waits. -/
theorem Loops.lowered (loops : t.Loops) (periodic : t.task.params.release = .periodic) :
    t.isFlagged = false := by
  unfold isFlagged
  split
  · rename_i l here
    exact (loops.paced periodic l here).apart
  · rfl

/-- A thread that has not ended has a step to take. -/
theorem Loops.busy_of_running (loops : t.Loops) (running : t.isOver = false) : t.next ≠ .idle := by
  cases here : t.spot with
  | looping l =>
    rw [Thread.next, here]
    exact fun idle => loops.busy l here (Action.map_eq_idle idle)
  | ended fate =>
    rw [isOver, here] at running
    cases running
  | _ =>
    rw [Thread.next, here]
    exact fun idle => by cases idle

end Thread

/-! ## Turns -/

/-- Somebody can take his turn. -/
def Turn.isOpen {σ : Type} : Turn σ → Bool
  | .idle => false
  | .blocked => false
  | _ => true

theorem Turn.isOpen_map {σ τ : Type} (f : σ → τ) (turn : Turn σ) : (turn.map f).isOpen = turn.isOpen := by
  cases turn <;> rfl

namespace Live

variable {l l' : LiveTask}

/-- The thread does not wait for a release, or its wait is cancelled. -/
def Woken (l : LiveTask) : Prop := l.machine.isFlagged = true → l.control.cancel.Fired

/-- **A thread can go on** until it has ended, unless it waits for a release. -/
theorem isOpen_of_running (loops : l.machine.Loops) (running : l.machine.isOver = false) (woken : l.Woken) :
    (l.turn Thread.next).isOpen = true := by
  have busy := loops.busy_of_running running
  unfold Live.turn
  cases action : l.machine.next with
  | idle => exact (busy action).elim
  | awaitRelease next =>
    have fired := woken (Thread.isFlagged_of_awaits action)
    dsimp only
    cases wait : l.wait with
    | look => rfl
    | take => rfl
    | done outcome => rfl
    | asleep => simp only [Wait.step, fired.readable, Bool.false_eq_true, if_false, if_true, Turn.isOpen]
  | _ => rfl

/-! ## How a task advances -/

/-- A task has come at least as far, be it by a step of its own or by a release. -/
structure Advances (l l' : LiveTask) : Prop where
  task : l'.machine.task = l.machine.task
  grows : l.control.Grows l'.control
  closer : l.WasStopped → l'.machine.spot.left < l.machine.spot.left ∨
    l'.machine = l.machine ∧ (l.Woken → Company.turnsLeft l'.wait ≤ Company.turnsLeft l.wait)

theorem Advances.refl (l : LiveTask) : l.Advances l where
  task := rfl
  grows := .refl _
  closer _ := .inr ⟨rfl, fun _ => Nat.le_refl _⟩

theorem advances_release (l : LiveTask) : l.Advances l.release.2 where
  task := rfl
  grows := .refl _
  closer _ := .inr ⟨rfl, fun _ => Nat.le_refl _⟩

theorem advances_of_meets {e : Event} (sound : l.Sound) (meets : l.machine.next.Meets e l'.machine)
    (moves : e.Moves l.control l'.control) : l.Advances l' where
  task := by rw [Thread.spot_of_meets meets]
  grows := by
    obtain ⟨-, -, cancel⟩ := Thread.shows_step meets moves sound.shows
    refine ⟨fun finished => ?_, by rw [cancel]; exact id, by rw [cancel]; exact id⟩
    rw [sound.shows.finished] at finished
    rw [Thread.next_of_isOver finished] at meets
    cases meets
  closer stopped := .inl (Thread.left_step meets moves stopped)

/-- A step of the wait lets the thread be. -/
theorem advances_of_wait (machine : l'.machine = l.machine) (control : l'.control = l.control)
    (turns : l.Woken → Company.turnsLeft l'.wait ≤ Company.turnsLeft l.wait) : l.Advances l' where
  task := by rw [machine]
  grows := by
    rw [control]
    exact .refl _
  closer _ := .inr ⟨machine, turns⟩

/-- Whatever a task does, it advances. -/
theorem advances_of_goes (sound : l.Sound) (goes : l.Goes l') : l.Advances l' := by
  cases goes with
  | interruption awaits asleep =>
    refine advances_of_wait rfl rfl fun _ => ?_
    rw [asleep]
    exact Nat.le_refl 1
  | failure e awaits =>
    refine advances_of_meets sound (e := .waitEnd (.error e)) ?_ rfl
    rw [awaits]
    exact .awaitRelease _ _
  | turn spins =>
    rcases moved_of_leads spins.leads with ⟨meets, moves, -⟩ | ⟨awaits, step, machine, control⟩
    · exact advances_of_meets sound meets moves
    · refine advances_of_wait machine control fun woken => ?_
      exact Nat.le_of_lt (Company.turnsLeft_step (woken (Thread.isFlagged_of_awaits awaits)) step)

/-- How many steps are left to a thread at most that was told to stop, with those of its wait: each wait takes
fewer than four. -/
def stepsLeft (l : LiveTask) : Nat := 4 * l.machine.spot.left + Company.turnsLeft l.wait

theorem stepsLeft_of_left (closer : l'.machine.spot.left < l.machine.spot.left) : l'.stepsLeft < l.stepsLeft := by
  have most := Company.turnsLeft_le l'.wait
  unfold stepsLeft
  omega

theorem Advances.stepsLeft_le (advances : l.Advances l') (stopped : l.WasStopped) (woken : l.Woken) :
    l'.stepsLeft < l.stepsLeft ∨ l'.stepsLeft = l.stepsLeft ∧ l'.machine = l.machine := by
  rcases advances.closer stopped with closer | ⟨same, turns⟩
  · exact .inl (stepsLeft_of_left closer)
  · have fewer := turns woken
    unfold stepsLeft
    rw [same]
    rcases Nat.lt_or_eq_of_le fewer with less | equal
    · exact .inl (by omega)
    · exact .inr ⟨by rw [equal], rfl⟩

/-- **Each turn of a thread that was told to stop is one of the last**, if its wait is cancelled. -/
theorem stepsLeft_of_spins (spins : (l.turn Thread.next).Spins l') (stopped : l.WasStopped) (woken : l.Woken) :
    l'.stepsLeft < l.stepsLeft := by
  rcases moved_of_leads spins.leads with ⟨meets, moves, -⟩ | ⟨awaits, step, machine, -⟩
  · exact stepsLeft_of_left (Thread.left_step meets moves stopped)
  · have fewer := Company.turnsLeft_step (woken (Thread.isFlagged_of_awaits awaits)) step
    unfold stepsLeft
    rw [machine]
    omega

end Live

/-! ## Calls -/

namespace StopCall

/-- How far a call has come: it polls between its first steps and its last ones. -/
def Spot.stage : StopCall.Spot → Nat
  | .raise => 6
  | .advance => 5
  | .lookFinished _ => 4
  | .lookInWait _ => 4
  | .pausing _ => 4
  | .cancel => 3
  | .signal => 2
  | .complaining _ => 1
  | .returned => 0

def Spot.isPolling (spot : StopCall.Spot) : Bool := spot.stage = 4

/-- How many steps it polls at most, once the thread has ended, or while it shows that it waits. -/
def Spot.looksLeft (ended : Bool) : StopCall.Spot → Nat
  | .lookFinished _ => if ended then 1 else 2
  | .pausing _ => if ended then 2 else 3
  | .lookInWait _ => if ended then 3 else 1
  | _ => 0

theorem looksLeft_le (ended : Bool) (spot : Spot) : spot.looksLeft ended ≤ 3 := by
  cases spot <;> cases ended <;> simp [Spot.looksLeft]

/-- A call that goes on polling comes closer to the look that ends it, if there is something to see. -/
structure Polls (c : Control) (spot spot' : Spot) : Prop where
  before : spot.isPolling = true
  after : spot'.isPolling = true
  ended : c.finished = true → spot'.looksLeft true < spot.looksLeft true
  waits : c.finished = false → c.inWait = true → spot'.looksLeft false < spot.looksLeft false

/-- A call stops a task of one kind. -/
theorem release_of_meets {call call' : StopCall} {e : Event} (meets : call.next.Meets e call') :
    call'.release = call.release := by
  cases here : call.spot with
  | advance | signal =>
    rw [StopCall.next, here] at meets
    cases meets
    dsimp only
    split <;> rfl
  | returned => rw [StopCall.next, here] at meets; cases meets
  | _ =>
    rw [StopCall.next, here] at meets
    cases meets
    rfl

theorem Polls.stage_eq {c : Control} {spot spot' : Spot} (polls : Polls c spot spot') : spot'.stage = spot.stage :=
  (of_decide_eq_true polls.after).trans (of_decide_eq_true polls.before).symm

/-- **A step of a call** takes it on, or it polls. -/
theorem nearer_of_meets {call call' : StopCall} {e : Event} {c c' : Control} (meets : call.next.Meets e call')
    (moves : e.Moves c c') : call'.spot.stage < call.spot.stage ∨ Polls c call.spot call'.spot := by
  cases here : call.spot with
  | raise =>
    rw [StopCall.next, here] at meets
    cases meets
    exact .inl (by decide : 5 < 6)
  | advance =>
    rw [StopCall.next, here] at meets
    cases meets
    left
    dsimp only
    split
    · exact (by decide : 0 < 5)
    · exact (by decide : 4 < 5)
  | lookFinished pause =>
    rw [StopCall.next, here] at meets
    cases meets with
    | access _ found =>
      obtain ⟨rfl, -⟩ := moves
      dsimp only
      cases finished : found.finished with
      | true => exact .inl (by decide : 0 < 4)
      | false =>
        refine .inr ⟨rfl, rfl, fun ended => ?_, fun _ _ => (by decide : 1 < 2)⟩
        rw [finished] at ended
        cases ended
  | lookInWait pause =>
    rw [StopCall.next, here] at meets
    cases meets with
    | access _ found =>
      obtain ⟨rfl, -⟩ := moves
      dsimp only
      cases waits : found.inWait with
      | true => exact .inl (by decide : 3 < 4)
      | false =>
        refine .inr ⟨rfl, rfl, fun _ => (by decide : 2 < 3), fun _ flagged => ?_⟩
        rw [waits] at flagged
        cases flagged
  | pausing pause =>
    rw [StopCall.next, here] at meets
    cases meets
    exact .inr ⟨rfl, rfl, fun _ => (by decide : 1 < 2), fun _ _ => (by decide : 2 < 3)⟩
  | cancel =>
    rw [StopCall.next, here] at meets
    cases meets
    exact .inl (by decide : 2 < 3)
  | signal =>
    rw [StopCall.next, here] at meets
    cases meets with
    | access _ found =>
      left
      dsimp only
      split
      · exact (by decide : 0 < 2)
      · exact (by decide : 1 < 2)
  | complaining cause =>
    rw [StopCall.next, here] at meets
    cases meets
    exact .inl (by decide : 0 < 1)
  | returned => rw [StopCall.next, here] at meets; cases meets

/-- A call that has not returned has a step to take. -/
theorem isOpen_stopTurn {l : LiveTask} {call : StopCall} (on : call.spot ≠ .returned) :
    (l.stopTurn call).isOpen = true := by
  cases here : call.spot with
  | returned => exact (on here).elim
  | _ =>
    simp only [Live.stopTurn, StopCall.next, here]
    rfl

end StopCall

/-! ## A task and the call that stops it -/

namespace Live

variable {l l' : LiveTask} {call : StopCall}

/-- A call stops this task, and has seen or done what it relies on. -/
structure Suits (l : LiveTask) (call : StopCall) : Prop where
  release : call.release = l.machine.task.params.release
  backed : call.release = .aperiodic → call.Backed l.control

/-- A call to stop the task has returned. -/
def Freed (l : LiveTask) : Prop :=
  l.machine.task.params.release = .aperiodic → l.HasEnded ∨ l.control.cancel.Fired

theorem suits_start (l : LiveTask) :
    let p := l.machine.task.params
    l.Suits (.start p.name p.release p.wcet) :=
  ⟨rfl, fun aperiodic => ⟨aperiodic, trivial⟩⟩

theorem Suits.advances (suits : l.Suits call) (advances : l.Advances l') : l'.Suits call where
  release := by
    rw [advances.task]
    exact suits.release
  backed aperiodic := (suits.backed aperiodic).grow advances.grows

theorem Suits.freed (suits : l.Suits call) (sound : l.Sound) (returned : call.spot = .returned) : l.Freed := by
  intro aperiodic
  have relies := (suits.backed (suits.release.trans aperiodic)).spot
  rw [returned] at relies
  rcases relies with finished | fired
  · exact .inl (sound.shows.finished.symm.trans finished)
  · exact .inr fired

theorem Freed.advances (freed : l.Freed) (onward : l.Onward l') (advances : l.Advances l') : l'.Freed := by
  intro aperiodic
  rw [advances.task] at aperiodic
  exact (freed aperiodic).imp onward.ended advances.grows.fired

/-- No wait of a task keeps it back behind the call. -/
theorem Freed.woken (freed : l.Freed) (loops : l.machine.Loops) : l.Woken := by
  intro flagged
  cases release : l.machine.task.params.release with
  | periodic =>
    rw [loops.lowered release] at flagged
    cases flagged
  | aperiodic =>
    refine (freed release).resolve_left fun ended => ?_
    obtain ⟨fate, here⟩ := Thread.spot_of_isOver ended
    rw [Thread.isFlagged, here] at flagged
    cases flagged

/-- The thread neither waits nor has ended. -/
def isBusy (l : LiveTask) : Bool := !(l.machine.isOver || l.machine.isFlagged)

/-- How many steps a call goes on polling at most, with those that the thread has left. -/
def pollsLeft (l : LiveTask) (spot : StopCall.Spot) : Nat :=
  if spot.isPolling then 4 * l.machine.spot.left + (if l.isBusy then 0 else spot.looksLeft l.machine.isOver) else 0

theorem pollsLeft_of_left {spot : StopCall.Spot} (closer : l'.machine.spot.left < l.machine.spot.left)
    (polling : spot.isPolling = true) : l'.pollsLeft spot < l.pollsLeft spot := by
  have most := StopCall.looksLeft_le l'.machine.isOver spot
  unfold pollsLeft
  rw [if_pos polling, if_pos polling]
  split <;> omega

/-- While a thread that was told to stop is polled, it comes nearer to its end or stays where it is. -/
theorem Advances.pollsLeft (advances : l.Advances l') (stopped : l.WasStopped) {spot : StopCall.Spot}
    (polling : spot.isPolling = true) :
    l'.pollsLeft spot < l.pollsLeft spot ∨ l'.pollsLeft spot = l.pollsLeft spot ∧ l'.isBusy = l.isBusy := by
  rcases advances.closer stopped with closer | ⟨same, -⟩
  · exact .inl (pollsLeft_of_left closer polling)
  · refine .inr ⟨?_, ?_⟩
    · unfold Live.pollsLeft isBusy
      rw [same]
    · unfold isBusy
      rw [same]

theorem running_of_isBusy (busy : l.isBusy = true) : l.machine.isOver = false := by
  simp only [isBusy, Bool.not_eq_true', Bool.or_eq_false_iff] at busy
  exact busy.1

theorem woken_of_isBusy (busy : l.isBusy = true) : l.Woken := by
  intro flagged
  simp only [isBusy, flagged, Bool.or_true, Bool.not_true, Bool.false_eq_true] at busy

/-- A thread that is busy takes a step of its own. -/
theorem left_of_spins (spins : (l.turn Thread.next).Spins l') (stopped : l.WasStopped) (busy : l.isBusy = true) :
    l'.machine.spot.left < l.machine.spot.left := by
  rcases moved_of_leads spins.leads with ⟨meets, moves, -⟩ | ⟨awaits, -, -, -⟩
  · exact Thread.left_step meets moves stopped
  · simp only [isBusy, Thread.isFlagged_of_awaits awaits, Bool.or_true, Bool.not_true, Bool.false_eq_true] at busy

/-- A call that goes on polling comes nearer to its last look, unless the thread neither waits nor has ended. -/
theorem pollsLeft_of_polls {spot spot' : StopCall.Spot} (machine : l'.machine = l.machine)
    (polls : StopCall.Polls l.control spot spot') (shows : l.machine.Shows l.control) :
    l'.pollsLeft spot' < l.pollsLeft spot ∨ l'.pollsLeft spot' = l.pollsLeft spot ∧ l.isBusy = true := by
  unfold pollsLeft isBusy
  rw [if_pos polls.before, if_pos polls.after, machine]
  cases ended : l.machine.isOver with
  | true =>
    have fewer := polls.ended (shows.finished.trans ended)
    simp only [Bool.true_or, Bool.not_true, Bool.false_eq_true, if_false]
    exact .inl (by omega)
  | false =>
    cases flagged : l.machine.isFlagged with
    | true =>
      have fewer := polls.waits (shows.finished.trans ended) (shows.inWait.trans flagged)
      simp only [Bool.or_true, Bool.not_true, Bool.false_eq_true, if_false]
      exact .inl (by omega)
    | false => exact .inr ⟨rfl, rfl⟩

end Live

end TaskTiming
