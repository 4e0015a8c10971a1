import TaskTiming.Proofs.Task.Handshake

/-!
# No lost wake-up

However the steps of a thread, of calls to stop its task and of those who release its jobs are ordered, a
thread that is blocked shows that it waits. So a call cannot go on polling while it is, and since a
cancellation stays, no wait blocks once a call has returned (`no_lost_wakeup`).
-/

namespace TaskTiming
set_option autoImplicit false

namespace Company

variable {c c' : Company} {a : Actor}

/-- What holds between the steps: the thread shows where it stands, and every call has what it relies on. -/
structure Sound (c : Company) : Prop where
  handle : c.handle.Backed c.live.control
  shows : c.live.machine.Shows c.live.control
  calls : ∀ call ∈ c.calls, call.Backed c.live.control

theorem sound_start {task : ReadyTask} (aperiodic : task.params.release = .aperiodic) (admission : Admission) :
    (start task admission).Sound where
  handle := ⟨aperiodic, trivial⟩
  shows := ⟨rfl, rfl⟩
  calls call mem := by cases mem

/-- A thread that has ended takes no further step. -/
theorem running_of_meets {t t' : Thread} {e : Event} (meets : t.next.Meets e t') : t.isOver = false := by
  unfold Thread.isOver
  split
  · rename_i here
    rw [Thread.next, here] at meets
    cases meets
  · rfl

/-- An event of the thread lets the control grow. -/
theorem grows_of_shows {t t' : Thread} {e : Event} {c c' : Control} (meets : t.next.Meets e t')
    (moves : e.Moves c c') (shown : t.Shows c) : t'.Shows c' ∧ c.Grows c' := by
  obtain ⟨shows, -, cancel⟩ := Thread.shows_step meets moves shown
  refine ⟨shows, ?_, by rw [cancel]; exact id, by rw [cancel]; exact id⟩
  intro ended
  rw [shown.finished, running_of_meets meets] at ended
  cases ended

/-- What a step of anyone does. -/
theorem sound_step (step : Step c a c') (sound : c.Sound) :
    c'.Sound ∧ c.live.control.Grows c'.live.control := by
  cases step with
  | thread leads =>
    rename_i live
    -- Either the thread itself goes on, or only the wait that it is in.
    rcases Live.moved_of_leads leads with ⟨meets, moves, -⟩ | ⟨-, -, machine, control⟩
    · obtain ⟨shows, grows⟩ := grows_of_shows meets moves sound.shows
      exact ⟨⟨sound.handle.grow grows, shows, fun call mem => (sound.calls call mem).grow grows⟩, grows⟩
    · have grows : c.live.control.Grows live.control := by
        rw [control]
        exact .refl _
      have shows := sound.shows
      rw [← machine, ← control] at shows
      exact ⟨⟨sound.handle.grow grows, shows, fun call mem => (sound.calls call mem).grow grows⟩, grows⟩
  | interruption awaits asleep => exact ⟨⟨sound.handle, sound.shows, sound.calls⟩, .refl _⟩
  | failure e awaits =>
    rename_i next
    have meets : c.live.machine.next.Meets (.waitEnd (.error e)) (next (.error e)) := by
      rw [awaits]
      exact .awaitRelease _ _
    obtain ⟨shows, grows⟩ := grows_of_shows (c := c.live.control) meets rfl sound.shows
    exact ⟨⟨sound.handle, shows, sound.calls⟩, grows⟩
  | release => exact ⟨⟨sound.handle, sound.shows, sound.calls⟩, .refl _⟩
  | newCall =>
    refine ⟨⟨sound.handle, sound.shows, ?_⟩, .refl _⟩
    intro call mem
    rcases List.mem_append.1 mem with old | new
    · exact sound.calls call old
    · rw [List.mem_singleton.1 new]
      exact sound.handle
  | call here leads =>
    rename_i i call call' live
    obtain ⟨e, stopped⟩ := Live.stopped_of_leads leads
    have stepped := StopCall.step_of_meets stopped.meets stopped.moves
      (sound.calls call (List.mem_of_getElem? here))
    refine ⟨⟨sound.handle.grow stepped.grows, ?_, ?_⟩, stepped.grows⟩
    · show live.machine.Shows live.control
      rw [stopped.machine]
      exact ⟨stepped.inWait.trans sound.shows.inWait, stepped.finished.trans sound.shows.finished⟩
    · intro other mem
      rcases List.mem_or_eq_of_mem_set mem with old | rfl
      · exact (sound.calls other old).grow stepped.grows
      · exact stepped.backed

theorem sound_of_reachable {task : ReadyTask} {admission : Admission}
    (aperiodic : task.params.release = .aperiodic) (reached : Reachable task admission c) : c.Sound := by
  induction reached with
  | start => exact sound_start aperiodic admission
  | step _ step ih => exact (sound_step step ih).1

/-- The thread is in its wait. -/
def Waits (c : Company) : Prop := ∃ next, c.live.machine.next = .awaitRelease next

/-- The thread is in its wait, and nothing ends it. -/
def Blocked (c : Company) : Prop := c.live.turn Thread.next = .blocked

/-- A call to stop the task has returned. -/
def Stopped (c : Company) : Prop := ∃ call ∈ c.calls, call.spot = .returned

/-- A thread blocks only asleep, with nothing to read. -/
theorem Blocked.asleep (blocked : c.Blocked) :
    c.Waits ∧ c.live.wait = .asleep ∧ c.live.control.cancel.signals.isReadable = false := by
  unfold Blocked Live.turn at blocked
  cases action : c.live.machine.next with
  | awaitRelease next =>
    rw [action] at blocked
    refine ⟨⟨next, action⟩, ?_⟩
    cases wait : c.live.wait with
    | look => rw [wait] at blocked; cases blocked
    | take => rw [wait] at blocked; cases blocked
    | done outcome => rw [wait] at blocked; cases blocked
    | asleep =>
      refine ⟨rfl, ?_⟩
      cases readable : c.live.control.cancel.signals.isReadable with
      | false => rfl
      | true => simp [wait, Wait.step, readable] at blocked
  | _ => rw [action] at blocked; cases blocked

theorem Waits.isFlagged (waits : c.Waits) : c.live.machine.isFlagged = true := by
  obtain ⟨next, awaits⟩ := waits
  exact Thread.isFlagged_of_awaits awaits

theorem Waits.running (waits : c.Waits) : c.live.machine.isOver = false := by
  obtain ⟨next, awaits⟩ := waits
  obtain ⟨l, here, -⟩ := Thread.spot_of_awaits awaits
  rw [Thread.isOver, here]

/-- What a returned call leaves, as long as the thread has not ended. -/
theorem Sound.fired_of_stopped (sound : c.Sound) (stopped : c.Stopped)
    (running : c.live.machine.isOver = false) : c.live.control.cancel.Fired := by
  obtain ⟨call, mem, returned⟩ := stopped
  have relies := (sound.calls call mem).spot
  rw [returned] at relies
  rcases relies with finished | fired
  · rw [sound.shows.finished, running] at finished
    cases finished
  · exact fired

/-- No wait blocks once a call has returned. -/
theorem Sound.not_blocked (sound : c.Sound) (stopped : c.Stopped) : ¬c.Blocked := by
  intro blocked
  obtain ⟨waits, -, silent⟩ := blocked.asleep
  have fired := sound.fired_of_stopped stopped waits.running
  rw [fired.readable] at silent
  cases silent

/-- A call that has returned stays so. -/
theorem Stopped.step (stopped : c.Stopped) (step : Step c a c') : c'.Stopped := by
  obtain ⟨call, mem, returned⟩ := stopped
  cases step with
  | newCall => exact ⟨call, List.mem_append_left _ mem, returned⟩
  | call here leads =>
    rename_i i moving call' live
    obtain ⟨j, place⟩ := List.mem_iff_getElem?.1 mem
    -- A call that has returned takes no step, so it is another one that moves.
    have apart : i ≠ j := by
      rintro rfl
      rw [here] at place
      cases place
      obtain ⟨e, stopped⟩ := Live.stopped_of_leads leads
      have meets := stopped.meets
      rw [StopCall.next, returned] at meets
      cases meets
    refine ⟨call, List.mem_iff_getElem?.2 ⟨j, ?_⟩, returned⟩
    show (c.calls.set i call')[j]? = some call
    rw [List.getElem?_set_ne apart, place]
  | _ => exact ⟨call, mem, returned⟩

/-! ## Every wait returns -/

/-- How many turns a wait takes at most once it is cancelled, but for the one in which the thread leaves. -/
def turnsLeft : Wait → Nat
  | .look => 1
  | .asleep => 1
  | .take => 2
  | .done _ => 0

theorem turnsLeft_le (wait : Wait) : turnsLeft wait ≤ 2 := by
  cases wait with
  | look => decide
  | asleep => decide
  | take => decide
  | done outcome => exact Nat.zero_le 2

/-- A cancelled wait comes closer to its end with each of its steps. -/
theorem turnsLeft_step {cancel : CancelToken} (fired : cancel.Fired) {releases releases' : EventCounter}
    {wait wait' : Wait} (step : wait.step cancel releases false = some (wait', releases')) :
    turnsLeft wait' < turnsLeft wait := by
  cases wait with
  | look =>
    simp only [Wait.step, fired.cancelled, if_true, Option.some.injEq, Prod.mk.injEq] at step
    rw [← step.1]
    exact Nat.zero_lt_one
  | asleep =>
    simp only [Wait.step, fired.readable, if_true, Bool.false_eq_true, if_false, Option.some.injEq,
      Prod.mk.injEq] at step
    rw [← step.1]
    exact Nat.zero_lt_one
  | take =>
    simp only [Wait.step, Option.some.injEq, Prod.mk.injEq] at step
    rw [← step.1]
    split
    · exact Nat.zero_lt_two
    · exact Nat.one_lt_two
  | done outcome => cases step

/-- Within one wait that is cancelled, only the thread comes closer to the end, and nobody takes it back. -/
theorem turnsLeft_within (step : Step c a c') (waits : c.Waits) (waits' : c'.Waits)
    (fired : c.live.control.cancel.Fired) :
    turnsLeft c'.live.wait + (if a = .thread then 1 else 0) ≤ turnsLeft c.live.wait := by
  cases step with
  | thread leads =>
    rename_i live
    obtain ⟨next, awaits⟩ := waits
    rcases Live.moved_of_leads leads with ⟨meets, -, -⟩ | ⟨-, step, -, -⟩
    · -- The thread goes on from its wait, so it waits no longer.
      obtain ⟨again, awaits'⟩ := waits'
      exact (Thread.leaves_wait awaits meets again awaits').elim
    · have closer := turnsLeft_step fired step
      simp only [if_true]
      omega
  | interruption awaits asleep =>
    rw [asleep]
    exact Nat.le_refl 1
  | failure e awaits =>
    rename_i next
    obtain ⟨again, awaits'⟩ := waits'
    have meets : c.live.machine.next.Meets (.waitEnd (.error e)) (next (.error e)) := by
      rw [awaits]
      exact .awaitRelease _ _
    exact (Thread.leaves_wait awaits meets again awaits').elim
  | release => exact Nat.le_refl _
  | newCall => exact Nat.le_refl _
  | call here leads =>
    obtain ⟨e, stopped⟩ := Live.stopped_of_leads leads
    simp only [stopped.wait]
    exact Nat.le_refl _

/-- The turns of a thread that stays in one wait. -/
theorem turns_within {actors : List Actor} (run : RunWithin Waits c actors c') (sound : c.Sound)
    (stopped : c.Stopped) : actors.count .thread + turnsLeft c'.live.wait ≤ turnsLeft c.live.wait := by
  induction run with
  | nil => exact Nat.le_of_eq (Nat.zero_add _)
  | cons here step run ih =>
    have fired := sound.fired_of_stopped stopped here.running
    have now := turnsLeft_within step here run.first fired
    have later := ih (sound_step step sound).1 (stopped.step step)
    rw [List.count_cons]
    simp only [beq_iff_eq]
    omega

/-! ## No call polls forever -/

theorem rank_le (spot : StopCall.Spot) : spot.rank ≤ 5 := by
  unfold StopCall.Spot.rank
  split <;> decide

/-- How many steps the call at an index still takes at most while the thread is blocked. -/
def stepsLeft (c : Company) (i : Nat) : Nat := ((c.calls[i]?).map (·.spot.rank)).getD 5

theorem stepsLeft_le (c : Company) (i : Nat) : c.stepsLeft i ≤ 5 := by
  unfold stepsLeft
  cases c.calls[i]? with
  | none => exact Nat.le_refl 5
  | some call => exact rank_le call.spot

/-- While the thread is blocked, every step of a call brings it closer to the cancellation. -/
theorem stepsLeft_within (step : Step c a c') (blocked : c.Blocked) (blocked' : c'.Blocked)
    (sound : c.Sound) (i : Nat) :
    c'.stepsLeft i + (if a = .call i then 1 else 0) ≤ c.stepsLeft i := by
  cases step with
  | newCall =>
    cases place : c.calls[i]? with
    | some call =>
      have inside : i < c.calls.length := (List.getElem?_eq_some_iff.1 place).1
      have same : (c.calls ++ [c.handle])[i]? = c.calls[i]? := List.getElem?_append_left inside
      simp only [stepsLeft, same]
      exact Nat.le_refl _
    | none =>
      have most : c.stepsLeft i = 5 := by rw [stepsLeft, place]; rfl
      rw [most]
      exact stepsLeft_le _ i
  | call here leads =>
    rename_i j call call' live
    obtain ⟨waits, -, -⟩ := blocked.asleep
    obtain ⟨e, stopped⟩ := Live.stopped_of_leads leads
    have stepped := StopCall.step_of_meets stopped.meets stopped.moves
      (sound.calls call (List.mem_of_getElem? here))
    by_cases same : j = i
    · subst same
      have inside : j < c.calls.length := (List.getElem?_eq_some_iff.1 here).1
      have before : c.stepsLeft j = call.spot.rank := by rw [stepsLeft, here]; rfl
      have after : (c.calls.set j call')[j]? = some call' := List.getElem?_set_self inside
      have closer := stepped.closer (sound.shows.inWait.trans waits.isFlagged)
        (sound.shows.finished.trans waits.running) blocked'.asleep.2.2
      rw [before]
      simp only [stepsLeft, after, Option.map_some, Option.getD_some, if_true]
      omega
    · have apart : (c.calls.set j call')[i]? = c.calls[i]? := List.getElem?_set_ne same
      have other : Actor.call j ≠ .call i := by
        intro equal
        cases equal
        exact same rfl
      simp only [stepsLeft, apart, if_neg other]
      exact Nat.le_refl _
  | thread leads =>
    rw [blocked] at leads
    cases leads
  | _ => exact Nat.le_refl _

/-- The steps of a call while the thread stays blocked. -/
theorem steps_within {actors : List Actor} (run : RunWithin Blocked c actors c') (sound : c.Sound) (i : Nat) :
    actors.count (.call i) + c'.stepsLeft i ≤ c.stepsLeft i := by
  induction run with
  | nil => exact Nat.le_of_eq (Nat.zero_add _)
  | cons here step run ih =>
    have now := stepsLeft_within step here run.first sound i
    have later := ih (sound_step step sound).1
    rw [List.count_cons]
    simp only [beq_iff_eq]
    omega

/-! ## No wake-up is lost -/

/-- Any steps. -/
abbrev Later (c : Company) (c' : Company) : Prop := ∃ actors, RunWithin (fun _ => True) c actors c'

theorem later_keeps (later : c.Later c') (sound : c.Sound) : c'.Sound ∧ (c.Stopped → c'.Stopped) := by
  obtain ⟨actors, run⟩ := later
  induction run with
  | nil => exact ⟨sound, id⟩
  | cons _ step _ ih =>
    obtain ⟨sound', stopped'⟩ := ih (sound_step step sound).1
    refine ⟨sound', ?_⟩
    intro stopped
    exact stopped' (stopped.step step)

/-- What stopping a task relies on. -/
structure StopSafe (c : Company) : Prop where
  /-- A blocked thread shows that it waits. -/
  shown : c.Blocked → c.live.control.inWait
  /-- Every end of the thread shows, and nothing else shows so. -/
  finished : c.live.control.finished ↔ ∃ fate, c.live.machine.end? = some fate
  /-- A call returns to a thread that has ended or is cancelled. -/
  returned : c.Stopped → c.live.control.finished ∨ c.live.control.cancel.cancelled
  /-- From then on no wait blocks. -/
  unblocked : c.Stopped → ∀ c', c.Later c' → ¬c'.Blocked
  /-- From then on every wait returns: the thread leaves it with its third turn at the latest. -/
  wakes : c.Stopped → ∀ c', c.Later c' → ∀ actors c'', RunWithin Waits c' actors c'' →
    actors.count .thread ≤ 2
  /-- A call takes few steps while the thread is blocked; the next one unblocks it. -/
  polls : ∀ i actors c', RunWithin Blocked c actors c' → actors.count (.call i) ≤ 5

/-- **No wake-up is lost**, in whatever order the steps of an aperiodic task's thread, of calls to stop the
task and of releases are taken. -/
theorem no_lost_wakeup {task : ReadyTask} {admission : Admission}
    (aperiodic : task.params.release = .aperiodic) {c : Company} (reached : Reachable task admission c) :
    c.StopSafe := by
  have sound := sound_of_reachable aperiodic reached
  refine { shown := ?_, finished := ?_, returned := ?_, unblocked := ?_, wakes := ?_, polls := ?_ }
  · intro blocked
    rw [sound.shows.inWait]
    exact blocked.asleep.1.isFlagged
  · rw [sound.shows.finished]
    exact c.live.machine.isOver_iff
  · intro stopped
    cases running : c.live.machine.isOver with
    | true => exact .inl (sound.shows.finished.trans running)
    | false => exact .inr (sound.fired_of_stopped stopped running).cancelled
  · intro stopped c' later
    obtain ⟨sound', keeps⟩ := later_keeps later sound
    exact sound'.not_blocked (keeps stopped)
  · intro stopped c' later actors c'' run
    obtain ⟨sound', keeps⟩ := later_keeps later sound
    have few := turns_within run sound' (keeps stopped)
    have most := turnsLeft_le c'.live.wait
    omega
  · intro i actors c' run
    have few := steps_within run sound i
    have most := c.stepsLeft_le i
    omega

/-- A thread that waits for its first release is blocked and shows so; a call to stop its task returns all
the same, and then nothing keeps the thread in its wait. -/
theorem no_lost_wakeup_waiting :
    let task : ReadyTask := {
      params := .aperiodic "tau" (.ofSecs 1) (.ofSecs 2), t0 := .zero, ring := none
      log := { bytes := [], samples := 0 }, path := ⟨"log"⟩ }
    task.params.release = .aperiodic ∧
      (∃ c, Reachable task .bestEffort c ∧ c.Blocked ∧ c.live.control.inWait) ∧
      ∃ c, Reachable task .bestEffort c ∧ c.Stopped ∧ c.Waits ∧ ¬c.Blocked := by
  intro task
  obtain ⟨c, sleeping, blocked, c', signalled, stopped, waits⟩ :
      ∃ c, Reachable task .bestEffort c ∧ c.Blocked ∧
        ∃ c', Reachable task .bestEffort c' ∧ c'.Stopped ∧ c'.Waits := by
    have begun : Reachable task .bestEffort _ := .start
    have raising := ((begun.step (.thread (.ask _ _ (.ok ())))).step (.thread (.go _))).step (.thread (.go _))
    have sleeping := (raising.step (.thread (.go _))).step (.thread (.go _))
    have raised := (sleeping.step (.newCall _)).step (.call (i := 0) rfl (.go _))
    have polling := (raised.step (.call (i := 0) rfl (.go _))).step (.call (i := 0) rfl (.go _))
    have cancelling := polling.step (.call (i := 0) rfl (.go _))
    have signalled := (cancelling.step (.call (i := 0) rfl (.go _))).step (.call (i := 0) rfl (.go _))
    exact ⟨_, sleeping, rfl, _, signalled, ⟨_, List.mem_singleton.2 rfl, rfl⟩, _, rfl⟩
  exact ⟨rfl, ⟨c, sleeping, blocked, (no_lost_wakeup rfl sleeping).shown blocked⟩,
    c', signalled, stopped, waits, (no_lost_wakeup rfl signalled).unblocked stopped c' ⟨[], .nil trivial⟩⟩

end Company

end TaskTiming
