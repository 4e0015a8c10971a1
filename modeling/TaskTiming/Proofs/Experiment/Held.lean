import TaskTiming.Proofs.Experiment.Conductor

/-!
# Tasks that are held

The conductor holds every task that he has started, but for one whose generator was refused: that one is the last,
and with it the setting up was given up (`Loses`). How many he holds is told from where he stands (`Counted`), and
whom he does not hold nobody asks to stop (`Overlooks`).
-/

namespace TaskTiming
set_option autoImplicit false

namespace Session

variable {first s s' : Session} {e : Error} {i : Nat}

/-- The system has refused the generator of the task that was started last, which is not held since. -/
structure Loses (first s : Session) (e : Error) : Prop where
  failure : s.failure = some e
  count : s.handles + 1 = s.tasks.length
  refused : ∃ before i interval, first.Reaches before ∧ before.spot = .generating i interval ∧
    before.conduct.Spins (before.giveUp e) ∧ (before.giveUp e).Reaches s

/-- All tasks are held, or one is lost. -/
def Spares (first s : Session) : Prop := s.handles = s.tasks.length ∨ ∃ e, Loses first s e

/-- How many tasks are held where the conductor stands. -/
def Counted (first s : Session) : Prop :=
  match s.spot with
  -- The task that was started last waits for its generator.
  | .generating _ _ => s.handles + 1 = s.tasks.length
  | .dropping => Spares first s
  | .stopping _ _ => Spares first s
  | .joining _ => Spares first s
  | .joiningGenerator _ => Spares first s
  | .returned outcome => s.handles = s.tasks.length ∨ (∃ e, outcome = .error e ∧ Loses first s e) ∨
      ∃ abort, outcome = .error (.aborted abort)
  | _ => s.handles = s.tasks.length

/-- No task that is not held was asked to stop. -/
def Overlooks (s : Session) : Prop :=
  ∀ ⦃i : Nat⦄ ⦃t : Started⦄, s.handles ≤ i → s.tasks[i]? = some t → t.live.control.stopped = false

/-! ## How many are held -/

theorem Loses.reaches (loses : Loses first s e) (later : s.Reaches s') (failure : s'.failure = s.failure)
    (handles : s'.handles = s.handles) (count : s'.tasks.length = s.tasks.length) : Loses first s' e := by
  obtain ⟨failed, lost, before, i, interval, reached, here, spins, given⟩ := loses
  refine ⟨failure.trans failed, by rw [handles, count]; exact lost, before, i, interval, reached, here, spins, ?_⟩
  exact given.trans later

theorem Spares.reaches (spares : Spares first s) (later : s.Reaches s') (failure : s'.failure = s.failure)
    (handles : s'.handles = s.handles) (count : s'.tasks.length = s.tasks.length) : Spares first s' := by
  rcases spares with all | ⟨e, loses⟩
  · exact .inl (by rw [handles, count]; exact all)
  · exact .inr ⟨e, loses.reaches later failure handles count⟩

theorem counted_of_spares (spares : Spares first s) (here : s.spot.isEnding = true) : Counted first s := by
  unfold Counted
  cases spot : s.spot with
  | dropping | stopping _ _ | joining _ | joiningGenerator _ => exact spares
  | _ =>
    rw [spot] at here
    cases here

theorem Counted.spares (counted : Counted first s) (here : s.spot.isEnding = true) : Spares first s := by
  unfold Counted at counted
  cases spot : s.spot with
  | dropping | stopping _ _ | joining _ | joiningGenerator _ =>
    rw [spot] at counted
    exact counted
  | _ =>
    rw [spot] at here
    cases here

/-- On to where all tasks are held. -/
theorem counted_goto {spot : Spot} (all : s.handles = s.tasks.length) (on : ∀ i interval, spot ≠ .generating i interval) :
    Counted first (s.goto spot) := by
  unfold Counted
  cases spot with
  | generating i interval => exact (on i interval rfl).elim
  | dropping | stopping _ _ | joining _ | joiningGenerator _ | returned _ => exact .inl all
  | _ => exact all

theorem counted_setUp (all : s.handles = s.tasks.length) (i : Nat) : Counted first (s.setUp i) := by
  unfold setUp
  split
  · exact counted_goto all nofun
  · split
    · exact counted_goto all nofun
    · split
      · exact counted_goto all nofun
      · exact counted_goto all nofun

theorem counted_giveUp (all : s.handles = s.tasks.length) (e : Error) : Counted first (s.giveUp e) := by
  unfold giveUp
  split
  · exact counted_goto all nofun
  · exact .inl all

/-- One more task, which waits for its generator if it has one. -/
theorem counted_taskStarted (all : s.handles = s.tasks.length) (i : Nat) (t : ExperimentTask) (task : ReadyTask)
    (job : Calibration) : Counted first (s.taskStarted i t task job) := by
  unfold taskStarted
  dsimp only
  split
  · show s.handles + 1 = (s.tasks ++ [_]).length
    rw [List.length_append, all]
    rfl
  · apply counted_setUp
    show s.handles + 1 = (s.tasks ++ [_]).length
    rw [List.length_append, all]
    rfl

/-- The task is lost whose generator is refused. -/
theorem counted_ungenerated {interval : Time} (reaches : first.Reaches s) (here : s.spot = .generating i interval)
    (waits : s.handles + 1 = s.tasks.length) (spins : s.conduct.Spins (s.giveUp e)) : Counted first (s.giveUp e) := by
  cases aborts : e.isAbort with
  | true =>
    cases e with
    | aborted abort => exact .inr (.inr ⟨abort, rfl⟩)
    | _ => cases aborts
  | false =>
    have given : s.giveUp e = { s with failure := some e, spot := .dropping } := by
      rw [giveUp, aborts]
      rfl
    have loses : Loses first (s.giveUp e) e := by
      refine ⟨?_, ?_, s, i, interval, reaches, here, spins, .refl⟩
      · rw [given]
      · rw [given]
        exact waits
    rw [given] at loses ⊢
    exact .inr ⟨e, loses⟩

/-- While he stops and joins them he holds the same tasks. -/
theorem Conducts.same_of_ending (conducts : s.Conducts s') (here : s.spot.isEnding = true) :
    s'.failure = s.failure ∧ s'.handles = s.handles ∧ s'.tasks.length = s.tasks.length ∧
      (s'.spot.isEnding = true ∨ s'.spot = .returned s.outcome) := by
  have stopFrom (s : Session) (i : Nat) : (s.stopFrom i).failure = s.failure ∧ (s.stopFrom i).handles = s.handles ∧
      (s.stopFrom i).tasks.length = s.tasks.length ∧ (s.stopFrom i).spot.isEnding = true := by
    unfold Session.stopFrom
    split
    · exact ⟨rfl, rfl, rfl, rfl⟩
    · refine ⟨rfl, rfl, rfl, ?_⟩
      show Spot.isEnding (if _ then _ else _) = true
      split <;> rfl
  cases conducts with
  | dropped =>
    obtain ⟨failure, handles, count, ending⟩ := stopFrom { s with running := false } 0
    exact ⟨failure, handles, count, .inl ending⟩
  | @stopped i =>
    unfold Session.stopped
    split
    · exact ⟨rfl, rfl, rfl, .inl rfl⟩
    · obtain ⟨failure, handles, count, ending⟩ := stopFrom s (i + 1)
      exact ⟨failure, handles, count, .inl ending⟩
  | stops => exact ⟨rfl, rfl, List.length_modify _ _ _, .inl rfl⟩
  | joinedAll | joinedGenerator => exact ⟨rfl, rfl, rfl, .inl rfl⟩
  | @joined i _ firstError =>
    unfold Session.joined
    split
    · obtain ⟨failure, handles, count, ending⟩ := stopFrom { s with firstError } (i + 1)
      exact ⟨failure, handles, count, .inl ending⟩
    · refine ⟨rfl, rfl, rfl, .inl ?_⟩
      show Spot.isEnding (if _ then _ else _) = true
      split <;> rfl
  | returned => exact ⟨rfl, rfl, rfl, .inr rfl⟩
  | polled at' => cases here.symm.trans (Spot.not_isEnding (.inr at'))
  | unbegun at' => cases here.symm.trans (Spot.not_isEnding (.inl at'))
  | entered at' | began at' | passed at' | prepared at' | noted at' | accepted at' | refused at' | created at'
  | uncreated at' | started at' | unstarted at' | generates at' | ungenerated at' | nobody at' | clockless at' =>
    rw [at'] at here
    cases here

/-- Before there are tasks and while the session is on, all are held. -/
theorem Counted.all (counted : Counted first s) (other : s.spot.isEarly = true ∨ s.spot.isPolling = true) :
    s.handles = s.tasks.length := by
  unfold Counted at counted
  cases here : s.spot with
  | directory | common | polling | pollingClock | pollingState _ | resting =>
    rw [here] at counted
    exact counted
  | _ =>
    rw [here] at other
    rcases other with early | polling
    · cases early
    · cases polling

theorem Counted.conducts (counted : Counted first s) (reaches : first.Reaches s) (spins : s.conduct.Spins s') :
    Counted first s' := by
  have conducts := conducts_of_spins spins
  cases ending : s.spot.isEnding with
  | true =>
    have spares := counted.spares ending
    obtain ⟨failure, handles, count, on⟩ := conducts.same_of_ending ending
    have spares' := spares.reaches (.single (.conductor spins)) failure handles count
    rcases on with ending' | returned
    · exact counted_of_spares spares' ending'
    · unfold Counted
      rw [returned]
      rcases spares' with all | ⟨e, loses⟩
      · exact .inl all
      · refine .inr (.inl ⟨e, ?_, loses⟩)
        rw [outcome, ← failure, loses.failure]
  | false =>
    have all := counted.all
    unfold Counted at counted
    cases conducts with
    | entered here | prepared here | noted here | accepted here | created here =>
      rw [here] at counted
      exact counted_goto counted nofun
    | passed here =>
      rw [here] at counted
      exact counted_setUp counted _
    | refused here | uncreated here | unstarted here =>
      rw [here] at counted
      exact counted_giveUp counted _
    | started here =>
      rw [here] at counted
      exact counted_taskStarted counted _ _ _ _
    | generates here =>
      rw [here] at counted
      have more (g : Generator) :
          Session.handles { s with handles := s.handles + 1, generators := s.generators ++ [g] } = s.tasks.length :=
        counted
      exact counted_setUp (more _) _
    | ungenerated here =>
      rw [here] at counted
      exact counted_ungenerated reaches here counted spins
    | nobody here none =>
      rw [here, none] at counted
      cases counted
    | unbegun early => exact counted_goto (all (.inl early)) nofun
    | began here t0 =>
      rw [here] at counted
      exact counted_setUp (s := { s with t0 }) counted 0
    | polled polling on =>
      refine counted_goto (all (.inr polling)) ?_
      rintro i interval rfl
      rcases on with on | on <;> cases on
    | clockless here =>
      rw [here] at counted
      exact counted_goto counted nofun
    | dropped here | stopped here | stops here | joinedAll here | joined here | joinedGenerator here
    | returned here =>
      rw [here] at ending
      cases ending

/-- Others leave to the conductor whom he holds. -/
theorem Counted.onward (counted : Counted first s) (step : s.Step s') (onward : s.Onward s')
    (spot : s'.spot = s.spot) : Counted first s' := by
  have spares (spares : Spares first s) : Spares first s' :=
    spares.reaches (.single step) onward.failure onward.handles onward.count
  unfold Counted at counted ⊢
  rw [spot]
  cases here : s.spot with
  | dropping | stopping _ _ | joining _ | joiningGenerator _ =>
    rw [here] at counted
    exact spares counted
  | returned outcome =>
    rw [here] at counted
    rcases counted with all | ⟨e, said, loses⟩ | aborted
    · exact .inl (by rw [onward.handles, onward.count]; exact all)
    · exact .inr (.inl ⟨e, said, loses.reaches (.single step) onward.failure onward.handles onward.count⟩)
    · exact .inr (.inr aborted)
  | _ =>
    rw [here] at counted
    rw [onward.handles, onward.count]
    exact counted

/-! ## Whom nobody asks to stop -/

theorem Overlooks.of_same (overlooks : s.Overlooks) (tasks : s'.tasks = s.tasks) (handles : s.handles ≤ s'.handles) :
    s'.Overlooks := by
  intro i t beyond here
  rw [tasks] at here
  exact overlooks (Nat.le_trans handles beyond) here

theorem Overlooks.proceeds (overlooks : s.Overlooks) (proceeds : s.Proceeds s') : s'.Overlooks :=
  overlooks.of_same proceeds.tasks (Nat.le_of_eq proceeds.handles.symm)

/-- One task goes on, and he is held or its flag is as it was. -/
theorem Overlooks.setLive (overlooks : s.Overlooks) {t : Started} {live : LiveTask} (here : s.tasks[i]? = some t)
    (same : s.handles ≤ i → live.control.stopped = t.live.control.stopped) : (s.setLive i live).Overlooks := by
  intro j u beyond there
  rw [Session.setLive, List.getElem?_modify] at there
  obtain ⟨before, here', rfl⟩ := Option.map_eq_some_iff.1 there
  by_cases at' : i = j
  · subst at'
    cases here.symm.trans here'
    simpa [same beyond] using overlooks beyond here
  · simpa [at'] using overlooks beyond here'

/-- A thread does not ask itself to stop. -/
theorem stopped_of_goes {l l' : LiveTask} (sound : l.Sound) (goes : l.Goes l') :
    l'.control.stopped = l.control.stopped := by
  rcases Live.met_of_goes goes with ⟨e, -, meets, moves⟩ | ⟨-, control⟩
  · exact (Thread.shows_step meets moves sound.shows).2.1
  · rw [control]

theorem overlooks_taskStarted (overlooks : s.Overlooks) (i : Nat) (t : ExperimentTask) (task : ReadyTask)
    (job : Calibration) : (s.taskStarted i t task job).Overlooks := by
  have more (handles : Nat) (le : s.handles ≤ handles) : Session.Overlooks { s with
      handles, tasks := s.tasks ++ [⟨Live.start (Thread.start task (s.admission t)), job⟩] } := by
    intro j u beyond there
    by_cases old : j < s.tasks.length
    · exact overlooks (Nat.le_trans le beyond) ((List.getElem?_append_left old).symm.trans there)
    · have last := (List.getElem?_append_right (Nat.not_lt.1 old)).symm.trans there
      obtain rfl := List.mem_singleton.1 (List.mem_of_getElem? last)
      rfl
  unfold taskStarted
  dsimp only
  split
  · exact more _ (Nat.le_refl _)
  · exact (more _ (Nat.le_succ _)).proceeds (proceeds_setUp _ _)

theorem Overlooks.conducts (overlooks : s.Overlooks) (conducts : s.Conducts s') : s'.Overlooks := by
  cases conducts with
  | entered | prepared | noted | accepted | created | joinedAll | joinedGenerator | returned | polled | unbegun
  | clockless => exact overlooks
  | began here t0 => exact Overlooks.proceeds (s := { s with t0 }) overlooks (proceeds_setUp _ _)
  | passed | nobody => exact overlooks.proceeds (s.proceeds_setUp _)
  | refused | uncreated | unstarted | ungenerated => exact overlooks.proceeds (s.proceeds_giveUp _)
  | started => exact overlooks_taskStarted overlooks _ _ _ _
  | generates =>
    have more (handles : Nat) (le : s.handles ≤ handles) (g : Generator) :
        Session.Overlooks { s with handles, generators := s.generators ++ [g] } := overlooks.of_same rfl le
    exact (more _ (Nat.le_succ _) _).proceeds (proceeds_setUp _ _)
  | dropped =>
    exact Overlooks.proceeds (s := { s with running := false }) overlooks (proceeds_stopFrom _ _)
  | stopped => exact overlooks.proceeds (s.proceeds_stopped _)
  | stops here there =>
    obtain ⟨inside, at'⟩ := getElem?_held_eq_some.1 there
    exact overlooks.setLive at' fun beyond => (Nat.not_lt.2 beyond inside).elim
  | @joined i _ firstError =>
    exact Overlooks.proceeds (s := { s with firstError }) overlooks (proceeds_joined _ i)

/-- **Nobody asks a task to stop that is not held.** -/
theorem Overlooks.step (overlooks : s.Overlooks) (sound : s.Sound) (step : s.Step s') : s'.Overlooks := by
  cases step with
  | conductor spins => exact overlooks.conducts (conducts_of_spins spins)
  | task here goes => exact overlooks.setLive here fun _ => stopped_of_goes (sound.live here) goes
  | interruption => exact overlooks
  | generator spins =>
    cases generates_of_spins spins with
    | looked | slept | complained => exact overlooks
    | signalled here spot released => exact overlooks.setLive released fun _ => rfl

end Session

end TaskTiming
