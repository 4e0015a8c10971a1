import TaskTiming.Proofs.Experiment.ConductorSteps

/-!
# The conductor of a session

Behind its setting up a session stops the tasks that it holds, waits for their threads and then for the
generators, and which of them it is through with is told from where its conductor stands (`Stands`). What each
of his steps leads to is said once (`Follows`): he returns with nothing left running that he holds (`Joined`),
but for the ways out that do not come by there (`CutShort`).
-/

namespace TaskTiming
set_option autoImplicit false

/-- A task that was stopped, and whose thread has ended with its log on the disk. -/
structure Live.Settled (l : LiveTask) : Prop where
  stopped : l.control.stopped = true
  ended : ∃ outcome, l.machine.end? = some (.returned outcome)
  joined : l.control.state = .joined

theorem Live.settled_of_ended {l : LiveTask} (sound : l.Sound) (stopped : l.WasStopped) (ended : l.HasEnded) :
    l.Settled := by
  obtain ⟨returned, joined⟩ := Thread.returned_of_closed sound.closed ended
  exact ⟨stopped, returned, joined⟩

theorem Live.Settled.hasEnded {l : LiveTask} (settled : l.Settled) : l.HasEnded := by
  obtain ⟨outcome, ended⟩ := settled.ended
  exact (Thread.isOver_iff _).2 ⟨_, ended⟩

namespace Session

variable {s s' s'' : Session} {n : Nat} {P : LiveTask → Prop}

/-- All that a session started has come to its end. -/
structure Settled (s : Session) : Prop where
  tasks : ∀ started ∈ s.tasks, started.live.Settled
  generators : ∀ g ∈ s.generators, g.spot = .ended ∧ s.running = false

/-- All that the conductor holds has come to its end. -/
structure Joined (s : Session) : Prop where
  tasks : ∀ started ∈ s.held, started.live.Settled
  generators : ∀ g ∈ s.generators, g.spot = .ended ∧ s.running = false

/-! ## Which tasks he holds -/

theorem getElem?_held_eq_some {i : Nat} {started : Started} :
    s.held[i]? = some started ↔ i < s.handles ∧ s.tasks[i]? = some started := by
  rw [held, List.getElem?_take]
  split <;> simp [*]

theorem tasks_of_held {i : Nat} {started : Started} (here : s.held[i]? = some started) :
    s.tasks[i]? = some started := (getElem?_held_eq_some.1 here).2

theorem mem_tasks_of_held {started : Started} (mem : started ∈ s.held) : started ∈ s.tasks :=
  List.mem_of_mem_take mem

theorem held_eq_tasks (all : s.handles = s.tasks.length) : s.held = s.tasks := by rw [held, all, List.take_length]

theorem Joined.settled (joined : s.Joined) (all : s.handles = s.tasks.length) : s.Settled where
  tasks := held_eq_tasks all ▸ joined.tasks
  generators := joined.generators

theorem Onward.held {i : Nat} {t' : Started} (onward : s.Onward s') (here : s'.held[i]? = some t') :
    ∃ t, s.held[i]? = some t ∧ t.live.Onward t'.live := by
  obtain ⟨inside, there⟩ := getElem?_held_eq_some.1 here
  obtain ⟨t, before, live⟩ := onward.tasks there
  exact ⟨t, getElem?_held_eq_some.2 ⟨onward.handles ▸ inside, before⟩, live⟩

/-- How the conductor returns without a look at those whom he started. -/
inductive CutShort (s s' : Session) : Result Unit → Prop
  /-- There is no instant at which the time is over. -/
  | endless {d : Time} {e : TimeError} (duration : s'.experiment.duration = some d)
      (beyond : s'.t0.add? d = .error e) : CutShort s s' (.error (.ofTime e))
  /-- The clock cannot be read while the tasks run. -/
  | clockless (here : s.spot = .pollingClock) (e : Error) : CutShort s s' (.error e)
  /-- He is brought down. -/
  | aborted (abort : Abort) : CutShort s s' (.error (.aborted abort))

/-! ## Which tasks he is through with -/

/-- The first of the tasks that he holds are of a kind. -/
def First (s : Session) (n : Nat) (P : LiveTask → Prop) : Prop :=
  ∀ ⦃i started⦄, i < n → s.held[i]? = some started → P started.live

theorem first_zero (s : Session) (P : LiveTask → Prop) : s.First 0 P := fun _ _ lt => (Nat.not_lt_zero _ lt).elim

theorem First.succ (first : s.First n P) (next : ∀ started, s.held[n]? = some started → P started.live) :
    s.First (n + 1) P := by
  intro i started lt here
  rcases Nat.lt_succ_iff_lt_or_eq.1 lt with before | rfl
  · exact first before here
  · exact next started here

theorem First.all (first : s.First n P) (past : s.held[n]? = none) : ∀ started ∈ s.held, P started.live := by
  intro started mem
  obtain ⟨i, here⟩ := List.mem_iff_getElem?.1 mem
  have lt : i < s.held.length := (List.getElem?_eq_some_iff.1 here).1
  exact first (Nat.lt_of_lt_of_le lt (List.getElem?_eq_none_iff.1 past)) here

theorem first_of_all (all : ∀ started ∈ s.held, P started.live) (n : Nat) : s.First n P :=
  fun _ _ _ here => all _ (List.mem_of_getElem? here)

/-- What tasks keep as they go on. -/
def Kept (P : LiveTask → Prop) : Prop := ∀ ⦃l l' : LiveTask⦄, l.Onward l' → P l → P l'

theorem kept_ended : Kept Live.HasEnded := fun _ _ onward => onward.ended

theorem kept_stopped : Kept Live.WasStopped := fun _ _ onward => onward.stopped

theorem kept_settled : Kept Live.Settled := fun _ _ onward settled =>
  Live.settled_of_ended onward.sound (onward.stopped settled.stopped) (onward.ended settled.hasEnded)

theorem First.onward (first : s.First n P) (onward : s.Onward s') (kept : Kept P) : s'.First n P := by
  intro i t' lt here
  obtain ⟨t, before, live⟩ := onward.held here
  exact kept live (first lt before)

theorem Onward.all (onward : s.Onward s') (all : ∀ started ∈ s.held, P started.live) (kept : Kept P) :
    ∀ started ∈ s'.held, P started.live := by
  intro t' mem
  obtain ⟨i, here⟩ := List.mem_iff_getElem?.1 mem
  obtain ⟨t, before, live⟩ := onward.held here
  exact kept live (all t (List.mem_of_getElem? before))

theorem Joined.onward (joined : s.Joined) (onward : s.Onward s') : s'.Joined where
  tasks := onward.all joined.tasks kept_settled
  generators g' mem := by
    obtain ⟨i, here⟩ := List.mem_iff_getElem?.1 mem
    obtain ⟨g, before, ended⟩ := onward.generators here
    obtain ⟨spot, dropped⟩ := joined.generators g (List.mem_of_getElem? before)
    exact ⟨ended spot, onward.running dropped⟩

/-- Stopping the task at a position. One that could not set up all tasks waits for each before it stops
the next. -/
structure Stopping (s : Session) (i : Nat) (call : StopCall) : Prop where
  dropped : s.running = false
  stopped : s.First i Live.WasStopped
  asked : call.spot = .raise ∨ s.First (i + 1) Live.WasStopped
  ended : s.failure.isSome = true → s.First i Live.HasEnded

/-- Waiting for the thread of the task at a position. -/
structure Joining (s : Session) (i : Nat) : Prop where
  dropped : s.running = false
  stopped : s.First (i + 1) Live.WasStopped
  allStopped : s.failure.isSome = false → ∀ started ∈ s.held, started.live.WasStopped
  ended : s.First i Live.HasEnded

/-- Waiting for the generator at a position, all tasks behind it. -/
structure JoiningGenerator (s : Session) (i : Nat) : Prop where
  dropped : s.running = false
  settled : ∀ started ∈ s.held, started.live.Settled
  ended : ∀ ⦃j g⦄, j < i → s.generators[j]? = some g → g.spot = .ended

/-- What holds where the conductor stands. -/
def Stands (s : Session) : Prop :=
  match s.spot with
  -- Nothing is started yet.
  | .directory => s.Joined
  | .common => s.Joined
  | .stopping i call => s.Stopping i call
  | .joining i => s.Joining i
  | .joiningGenerator i => s.JoiningGenerator i
  | _ => True

theorem Stands.joined_of_early (stands : s.Stands) (here : s.spot.isEarly = true) : s.Joined := by
  unfold Stands at stands
  cases spot : s.spot with
  | directory | common =>
    rw [spot] at stands
    exact stands
  | _ =>
    rw [spot] at here
    cases here

/-- It goes on holding while others take their steps. -/
theorem Stands.onward (stands : s.Stands) (onward : s.Onward s') (spot : s'.spot = s.spot) : s'.Stands := by
  unfold Stands at stands ⊢
  rw [spot]
  cases here : s.spot with
  | directory | common =>
    rw [here] at stands
    exact Joined.onward stands onward
  | stopping i call =>
    rw [here] at stands
    obtain ⟨dropped, stopped, asked, ended⟩ := stands
    refine ⟨onward.running dropped, stopped.onward onward kept_stopped, ?_, ?_⟩
    · exact asked.imp_right fun first => first.onward onward kept_stopped
    · rw [onward.failure]
      exact fun failed => (ended failed).onward onward kept_ended
  | joining i =>
    rw [here] at stands
    obtain ⟨dropped, stopped, allStopped, ended⟩ := stands
    refine ⟨onward.running dropped, stopped.onward onward kept_stopped, ?_, ended.onward onward kept_ended⟩
    rw [onward.failure]
    exact fun well => onward.all (allStopped well) kept_stopped
  | joiningGenerator i =>
    rw [here] at stands
    obtain ⟨dropped, settled, ended⟩ := stands
    refine ⟨onward.running dropped, onward.all settled kept_settled, ?_⟩
    intro j g' lt there
    obtain ⟨g, before, stays⟩ := onward.generators there
    exact stays (ended lt before)
  | _ => trivial

/-! ## The conductor's steps -/

/-- Where a step of the conductor leads. -/
structure Follows (s s' : Session) : Prop where
  sound : s'.Sound
  stands : s'.Stands
  returns : ∀ outcome, s'.outcome? = some outcome → CutShort s s' outcome ∨ s'.Joined

/-- On the way nothing is returned. -/
theorem Follows.on (sound : s'.Sound) (stands : s'.Stands) (on : s'.outcome? = none) : Follows s s' :=
  ⟨sound, stands, fun _ returned => nomatch on.symm.trans returned⟩

theorem Follows.returned {outcome : Result Unit} (sound : s'.Sound)
    (how : CutShort s (s'.finish outcome) outcome ∨ s'.Joined) : Follows s (s'.finish outcome) where
  sound := sound
  stands := trivial
  returns said returned := by
    cases returned
    rcases how with short | ⟨tasks, generators⟩
    · exact .inl short
    · exact .inr ⟨tasks, generators⟩

theorem follows_setUp (sound : s'.Sound) (i : Nat) : Follows s (s'.setUp i) := by
  unfold setUp
  split
  · exact .on sound trivial rfl
  · split
    · exact .on sound trivial rfl
    · rename_i d duration
      split
      · exact .on sound trivial rfl
      · rename_i e beyond
        exact .returned sound (.inl (.endless duration beyond))

theorem follows_giveUp (sound : s.Sound) (e : Error) : Follows s (s.giveUp e) := by
  unfold giveUp
  split
  · rename_i isAbort
    cases e with
    | aborted abort => exact .returned sound (.inl (.aborted abort))
    | _ => cases isAbort
  · exact .on sound trivial rfl

/-- While he waits for the session to be over, nothing is claimed of the tasks but that they are sound. -/
theorem follows_goto {spot : Spot} (sound : s.Sound) (on : spot.isPolling = true ∨ spot = .dropping) :
    Follows s (s.goto spot) := by
  refine .on sound ?_ ?_
  · unfold Stands
    cases spot with
    | polling | pollingClock | pollingState _ | resting | dropping => trivial
    | _ => rcases on with on | on <;> cases on
  · cases spot with
    | returned _ => rcases on with on | on <;> cases on
    | _ => rfl

theorem all_settled (sound : s.Sound) (stopped : ∀ started ∈ s.held, started.live.WasStopped)
    (ended : ∀ started ∈ s.held, started.live.HasEnded) : ∀ started ∈ s.held, started.live.Settled :=
  fun started mem =>
    Live.settled_of_ended (sound started (mem_tasks_of_held mem)) (stopped started mem) (ended started mem)

/-- From all tasks to the first generator. -/
theorem joiningGenerator_zero (dropped : s.running = false) (settled : ∀ started ∈ s.held, started.live.Settled) :
    s.JoiningGenerator 0 :=
  ⟨dropped, settled, fun _ _ lt => (Nat.not_lt_zero _ lt).elim⟩

theorem follows_stopFrom {i : Nat} (sound : s'.Sound) (dropped : s'.running = false)
    (stopped : s'.First i Live.WasStopped) (ended : s'.failure.isSome = true → s'.First i Live.HasEnded) :
    Follows s (s'.stopFrom i) := by
  unfold stopFrom
  split
  · exact .on sound (Stopping.mk dropped stopped (.inl rfl) ended) rfl
  · rename_i past
    by_cases failed : s'.failure.isSome = true
    · rw [if_pos (.inl failed)]
      have settled := all_settled sound (stopped.all past) ((ended failed).all past)
      exact .on sound (joiningGenerator_zero dropped settled) rfl
    · by_cases empty : s'.held.isEmpty = true
      · rw [if_pos (.inr empty)]
        have settled : ∀ started ∈ s'.held, started.live.Settled := by simp [List.isEmpty_iff.1 empty]
        exact .on sound (joiningGenerator_zero dropped settled) rfl
      · rw [if_neg (by simp [failed, empty])]
        have all := stopped.all past
        exact .on sound (Joining.mk dropped (first_of_all all 1) (fun _ => all) (first_zero _ _)) rfl

theorem follows_stopped {i : Nat} (sound : s'.Sound) (dropped : s'.running = false)
    (stopped : s'.First (i + 1) Live.WasStopped) (ended : s'.failure.isSome = true → s'.First i Live.HasEnded) :
    Follows s (s'.stopped i) := by
  unfold Session.stopped
  split
  · rename_i failed
    refine .on sound (Joining.mk dropped stopped ?_ (ended failed)) rfl
    exact fun well => nomatch failed.symm.trans well
  · rename_i well
    exact follows_stopFrom sound dropped stopped fun failed => (well failed).elim

theorem follows_joined {i : Nat} (sound : s'.Sound) (joining : s'.Joining i)
    (last : ∀ started, s'.held[i]? = some started → started.live.HasEnded) : Follows s (s'.joined i) := by
  have ended := joining.ended.succ last
  unfold joined
  split
  · exact follows_stopFrom sound joining.dropped joining.stopped fun _ => ended
  · rename_i well
    have all := joining.allStopped (by simpa using well)
    split
    · exact .on sound (Joining.mk joining.dropped (first_of_all all _) (fun _ => all) ended) rfl
    · rename_i past
      have settled := all_settled sound all (ended.all (List.getElem?_eq_none_iff.2 (Nat.not_lt.1 past)))
      exact .on sound (joiningGenerator_zero joining.dropped settled) rfl

theorem getElem?_setLive {i : Nat} {t : Started} {live : LiveTask}
    (there : (s.setLive i live).tasks[i]? = some t) : t.live = live := by
  rw [setLive, List.getElem?_modify] at there
  obtain ⟨_, -, rfl⟩ := Option.map_eq_some_iff.1 there
  simp

theorem follows_stops {i : Nat} {call call' : StopCall} {started : Started} {live : LiveTask}
    (sound : s.Sound) (stopping : s.Stopping i call) (here : s.held[i]? = some started)
    (leads : (started.live.stopTurn call).Leads (live, call')) :
    Follows s ((s.setLive i live).goto (.stopping i call')) := by
  have there := tasks_of_held here
  have onward := onward_setLive sound there (Live.onward_stopTurn (sound.live there) leads)
  have asked : live.WasStopped :=
    Live.wasStopped_stopTurn leads (stopping.asked.imp_right fun first => first (Nat.lt_add_one i) here)
  have before := stopping.stopped.onward onward kept_stopped
  have stopped := before.succ fun t there => by
    rw [getElem?_setLive (tasks_of_held there)]
    exact asked
  have ended : s.failure.isSome = true → (s.setLive i live).First i Live.HasEnded :=
    fun failed => (stopping.ended failed).onward onward kept_ended
  exact .on onward.sound (Stopping.mk stopping.dropped before (.inr stopped) ended) rfl

/-- Past the last generator all has come to its end. -/
theorem JoiningGenerator.joined_of_past {i : Nat} (joining : s.JoiningGenerator i)
    (past : s.generators[i]? = none) : s.Joined where
  tasks := joining.settled
  generators g mem := by
    obtain ⟨j, there⟩ := List.mem_iff_getElem?.1 mem
    have lt : j < s.generators.length := (List.getElem?_eq_some_iff.1 there).1
    exact ⟨joining.ended (Nat.lt_of_lt_of_le lt (List.getElem?_eq_none_iff.1 past)) there, joining.dropped⟩

/-- On to the next generator behind one that has ended. -/
theorem JoiningGenerator.succ {i : Nat} {g : Generator} (joining : s.JoiningGenerator i)
    (there : s.generators[i]? = some g) (ended : g.spot = .ended) : s.JoiningGenerator (i + 1) := by
  refine ⟨joining.dropped, joining.settled, fun j h lt here => ?_⟩
  rcases Nat.lt_succ_iff_lt_or_eq.1 lt with before | rfl
  · exact joining.ended before here
  · cases there.symm.trans here
    exact ended

/-- One more task is started, which is sound. -/
theorem Sound.more (sound : s.Sound) (task : ReadyTask) (admission : Admission) (job : Calibration) :
    Session.Sound { s with tasks := s.tasks ++ [⟨Live.start (Thread.start task admission), job⟩] } := by
  intro started mem
  rcases List.mem_append.1 mem with before | last
  · exact sound started before
  · cases List.mem_singleton.1 last
    exact ⟨⟨rfl, rfl⟩, trivial⟩

theorem follows_taskStarted (sound : s.Sound) (i : Nat) (t : ExperimentTask) (task : ReadyTask) (job : Calibration) :
    Follows s (s.taskStarted i t task job) := by
  have more := sound.more task (s.admission t) job
  unfold taskStarted
  split
  · exact .on more trivial rfl
  · have held : Session.Sound { s with
        tasks := s.tasks ++ [⟨Live.start (Thread.start task (s.admission t)), job⟩], handles := s.handles + 1 } := more
    exact follows_setUp held _

/-- **What a step of the conductor leads to.** -/
theorem follows_of_conduct (sound : s.Sound) (stands : s.Stands) (spins : s.conduct.Spins s') : Follows s s' := by
  have early := stands.joined_of_early
  unfold Stands at stands
  cases conducts_of_spins spins with
  | entered here =>
    rw [here] at stands
    have joined : (s.goto .common).Joined := ⟨stands.tasks, stands.generators⟩
    exact .on sound joined rfl
  | unbegun here e => exact .returned sound (.inr (early here))
  | began here t0 =>
    have begun : Session.Sound { s with t0 } := sound
    exact follows_setUp begun 0
  | passed | nobody => exact follows_setUp sound _
  | prepared | noted | accepted | created => exact .on sound trivial rfl
  | refused | uncreated | unstarted | ungenerated => exact follows_giveUp sound _
  | started here at' => exact follows_taskStarted sound _ _ _ _
  | generates here last =>
    have more (handles : Nat) (g : Generator) :
        Session.Sound { s with handles, generators := s.generators ++ [g] } := sound
    exact follows_setUp (more _ _) _
  | polled here on => exact follows_goto sound on
  | clockless here e => exact .returned sound (.inl (.clockless here e))
  | dropped here =>
    have ended : Session.Sound { s with running := false } := sound
    exact follows_stopFrom ended rfl (first_zero _ _) fun _ => first_zero _ _
  | @stopped i call here done =>
    rw [here] at stands
    have next : s.First (i + 1) Live.WasStopped := by
      rcases done with returned | past
      · exact stands.asked.resolve_left (by simp [returned])
      · exact stands.stopped.succ (by simp [past])
    exact follows_stopped sound stands.dropped next stands.ended
  | stops here there part =>
    rw [here] at stands
    exact follows_stops sound stands there part.leads
  | @joinedAll i here past =>
    rw [here] at stands
    have stopped : s.First i Live.WasStopped := fun _ _ lt => stands.stopped (Nat.lt_succ_of_lt lt)
    have settled := all_settled sound (stopped.all past) (stands.ended.all past)
    exact .on sound (joiningGenerator_zero stands.dropped settled) rfl
  | @joined i started firstError here there ended =>
    rw [here] at stands
    -- The first error is nothing to those who are joined.
    have joining : Session.Joining { s with firstError } i :=
      ⟨stands.dropped, stands.stopped, stands.allStopped, stands.ended⟩
    refine follows_joined sound joining fun t at' => ?_
    cases there.symm.trans at'
    exact ended
  | joinedGenerator here there ended =>
    rw [here] at stands
    obtain ⟨dropped, settled, ended⟩ := stands.succ there ended
    exact .on sound (JoiningGenerator.mk dropped settled ended) rfl
  | returned here past =>
    rw [here] at stands
    exact .returned sound (.inr (stands.joined_of_past past))

end Session

end TaskTiming
