import TaskTiming.Proofs.Experiment.Steps

/-!
# The conductor's steps

What the conductor of a session does next is said once, by where he stands and what he finds or is told
(`Conducts`, `conducts_of_spins`). What his steps keep is proved from that, with a case for each of them. Most of
them leave all that was set up as it was (`Proceeds`).
-/

namespace TaskTiming
set_option autoImplicit false

namespace Session

variable {s s' : Session} {i : Nat}

/-- The common start is not known yet. -/
def Spot.isEarly : Session.Spot → Bool
  | .directory => true
  | .common => true
  | _ => false

/-- The conductor waits for the session to be over. -/
def Spot.isPolling : Session.Spot → Bool
  | .polling => true
  | .pollingClock => true
  | .pollingState _ => true
  | .resting => true
  | _ => false

/-- The conductor stops and joins those whom he holds. -/
def Spot.isEnding : Session.Spot → Bool
  | .dropping => true
  | .stopping _ _ => true
  | .joining _ => true
  | .joiningGenerator _ => true
  | _ => false

theorem Spot.not_isEnding {spot : Spot} (other : spot.isEarly = true ∨ spot.isPolling = true) :
    spot.isEnding = false := by
  rcases other with early | polling
  · cases spot with
    | directory | common => rfl
    | _ => cases early
  · cases spot with
    | polling | pollingClock | pollingState _ | resting => rfl
    | _ => cases polling

theorem Spot.not_isEarly {spot : Spot} (other : spot.isPolling = true ∨ spot.isEnding = true) :
    spot.isEarly = false := by
  cases spot with
  | directory | common => rcases other with other | other <;> cases other
  | _ => rfl

/-- What the conductor's step may be. -/
inductive Conducts (s : Session) : Session → Prop
  | entered (here : s.spot = .directory) : Conducts s (s.goto .common)
  /-- There is no log directory, or no common start. -/
  | unbegun (here : s.spot.isEarly = true) (e : Error) : Conducts s (s.finish (.error e))
  | began (here : s.spot = .common) (t0 : Time) : Conducts s ({ s with t0 }.setUp 0)
  | passed {i : Nat} (here : s.spot = .preparing i) (past : s.experiment.tasks[i]? = none) : Conducts s (s.setUp i)
  | prepared {i : Nat} {t : ExperimentTask} (here : s.spot = .preparing i)
      (task : s.experiment.tasks[i]? = some t) :
      Conducts s (s.goto (.noting i (s.prepare t).1 (s.prepare t).2))
  | noted {i : Nat} {line : LogLine} {lines : List LogLine} {outcome : Result (ReadyTask × Calibration)}
      (here : s.spot = .noting i (line :: lines) outcome) : Conducts s (s.goto (.noting i lines outcome))
  | accepted {i : Nat} {task : ReadyTask} {job : Calibration} (here : s.spot = .noting i [] (.ok (task, job))) :
      Conducts s (s.goto (.creating i task job))
  | refused {i : Nat} {e : Error} (here : s.spot = .noting i [] (.error e)) : Conducts s (s.giveUp e)
  | created {i : Nat} {task : ReadyTask} {job : Calibration} (here : s.spot = .creating i task job) :
      Conducts s (s.goto (.starting i task job))
  | uncreated {i : Nat} {task : ReadyTask} {job : Calibration} (here : s.spot = .creating i task job) (e : Error) :
      Conducts s (s.giveUp e)
  | started {i : Nat} {task : ReadyTask} {job : Calibration} {t : ExperimentTask} (here : s.spot = .starting i task job)
      (at' : s.experiment.tasks[i]? = some t) : Conducts s (s.taskStarted i t task job)
  | unstarted {i : Nat} {task : ReadyTask} {job : Calibration} (here : s.spot = .starting i task job) (e : Error) :
      Conducts s (s.giveUp e)
  | generates {i : Nat} {interval : Time} {started : Started} (here : s.spot = .generating i interval)
      (last : s.tasks.getLast? = some started) : Conducts s (s.generatorStarted i interval started)
  /-- The task that was started last has no generator. -/
  | ungenerated {i : Nat} {interval : Time} (here : s.spot = .generating i interval) (e : Error) :
      Conducts s (s.giveUp e)
  | nobody {i : Nat} {interval : Time} (here : s.spot = .generating i interval) (none : s.tasks = []) :
      Conducts s (s.setUp (i + 1))
  | polled {spot : Spot} (here : s.spot.isPolling = true) (on : spot.isPolling = true ∨ spot = .dropping) :
      Conducts s (s.goto spot)
  | clockless (here : s.spot = .pollingClock) (e : Error) : Conducts s (s.finish (.error e))
  | dropped (here : s.spot = .dropping) : Conducts s ({ s with running := false }.stopFrom 0)
  | stopped {i : Nat} {call : StopCall} (here : s.spot = .stopping i call)
      (done : call.spot = .returned ∨ s.held[i]? = none) : Conducts s (s.stopped i)
  | stops {i : Nat} {call call' : StopCall} {started : Started} {live : LiveTask} (here : s.spot = .stopping i call)
      (there : s.held[i]? = some started) (turn : (started.live.stopTurn call).Spins (live, call')) :
      Conducts s ((s.setLive i live).goto (.stopping i call'))
  | joinedAll {i : Nat} (here : s.spot = .joining i) (past : s.held[i]? = none) :
      Conducts s (s.goto (.joiningGenerator 0))
  | joined {i : Nat} {started : Started} {firstError : Option Error} (here : s.spot = .joining i)
      (there : s.held[i]? = some started) (ended : started.live.HasEnded) :
      Conducts s (Session.joined { s with firstError } i)
  | joinedGenerator {i : Nat} {g : Generator} (here : s.spot = .joiningGenerator i)
      (there : s.generators[i]? = some g) (ended : g.spot = .ended) : Conducts s (s.goto (.joiningGenerator (i + 1)))
  | returned {i : Nat} (here : s.spot = .joiningGenerator i) (past : s.generators[i]? = none) :
      Conducts s (s.finish s.outcome)

/-! ## What he does where he stands -/

theorem conducts_early (here : s.spot.isEarly = true) (spins : s.conduct.Spins s') : s.Conducts s' := by
  cases spot : s.spot with
  | directory =>
    simp only [conduct, spot] at spins
    cases spins with
    | ask _ _ outcome =>
      cases outcome with
      | ok => exact .entered spot
      | error e => exact .unbegun here e
  | common =>
    simp only [conduct, spot] at spins
    cases spins with
    | readClock _ now =>
      dsimp only
      split
      · -- the spot of the session that begins is still the one it had
        rw [← spot]
        exact .began spot _
      · exact .unbegun here _
  | _ =>
    rw [spot] at here
    cases here

theorem conducts_preparing (here : s.spot = .preparing i) (spins : s.conduct.Spins s') : s.Conducts s' := by
  simp only [conduct, here] at spins
  split at spins
  · rename_i past
    cases spins
    exact .passed here past
  · rename_i t task
    cases spins
    exact .prepared here task

theorem conducts_noting {lines : List LogLine} {outcome : Result (ReadyTask × Calibration)}
    (here : s.spot = .noting i lines outcome) (spins : s.conduct.Spins s') : s.Conducts s' := by
  cases lines with
  | cons line lines =>
    simp only [conduct, here] at spins
    cases spins
    exact .noted here
  | nil =>
    simp only [conduct, here] at spins
    cases outcome with
    | ok found =>
      cases spins
      exact .accepted here
    | error e =>
      cases spins
      exact .refused here

theorem conducts_creating {task : ReadyTask} {job : Calibration} (here : s.spot = .creating i task job)
    (spins : s.conduct.Spins s') : s.Conducts s' := by
  simp only [conduct, here] at spins
  cases spins with
  | ask _ _ outcome =>
    cases outcome with
    | ok => exact .created here
    | error e => exact .uncreated here e

theorem conducts_starting {task : ReadyTask} {job : Calibration} (here : s.spot = .starting i task job)
    (spins : s.conduct.Spins s') : s.Conducts s' := by
  simp only [conduct, here, startTask] at spins
  split at spins
  · cases spins
    exact .unstarted here _
  · rename_i t at'
    obtain ⟨outcome, -, rfl⟩ := spins.of_map
    cases outcome with
    | ok => exact .started here at'
    | error e => exact .unstarted here e

theorem conducts_generating {interval : Time} (here : s.spot = .generating i interval)
    (spins : s.conduct.Spins s') : s.Conducts s' := by
  simp only [conduct, here, startGenerator] at spins
  split at spins
  · rename_i none
    cases spins
    exact .nobody here (List.getLast?_eq_none_iff.1 none)
  · rename_i started last
    cases spins with
    | ask _ _ outcome =>
      cases outcome with
      | ok => exact .generates here last
      | error e => exact .ungenerated here e

theorem conducts_polling (here : s.spot.isPolling = true) (spins : s.conduct.Spins s') : s.Conducts s' := by
  cases spot : s.spot with
  | polling =>
    simp only [conduct, spot] at spins
    cases spins
    refine .polled here ?_
    cases s.running
    · exact .inr rfl
    · exact .inl rfl
  | pollingClock =>
    simp only [conduct, spot] at spins
    cases spins with
    | readClock _ now =>
      cases now with
      | ok now =>
        refine .polled here ?_
        cases s.isOver now
        · exact .inl rfl
        · exact .inr rfl
      | error e => exact .clockless spot e
  | pollingState i =>
    simp only [conduct, spot] at spins
    split at spins
    · cases spins
      exact .polled here (.inr rfl)
    · cases spins
      refine .polled here (.inl ?_)
      split <;> rfl
  | resting =>
    simp only [conduct, spot] at spins
    cases spins
    exact .polled here (.inl rfl)
  | _ =>
    rw [spot] at here
    cases here

theorem conducts_stopping {call : StopCall} (here : s.spot = .stopping i call) (spins : s.conduct.Spins s') :
    s.Conducts s' := by
  simp only [conduct, here] at spins
  split at spins
  · rename_i returned
    cases spins
    exact .stopped here (.inl returned)
  · split at spins
    · rename_i past
      cases spins
      exact .stopped here (.inr past)
    · rename_i started there
      obtain ⟨⟨live, call'⟩, part, rfl⟩ := spins.of_map
      exact .stops here there part

theorem conducts_joining (here : s.spot = .joining i) (spins : s.conduct.Spins s') : s.Conducts s' := by
  simp only [conduct, here] at spins
  split at spins
  · rename_i past
    cases spins
    exact .joinedAll here past
  · rename_i started there
    split at spins
    · cases spins
    · rename_i fate ended
      have gone : started.live.HasEnded := (Thread.isOver_iff _).2 ⟨fate, ended⟩
      unfold joinTurn at spins
      repeat' split at spins
      all_goals cases spins
      all_goals exact .joined here there gone

theorem conducts_joiningGenerator (here : s.spot = .joiningGenerator i) (spins : s.conduct.Spins s') :
    s.Conducts s' := by
  simp only [conduct, here] at spins
  split at spins
  · rename_i past
    cases spins
    exact .returned here past
  · rename_i g there
    split at spins
    · rename_i ended
      cases spins
      exact .joinedGenerator here there ended
    · cases spins

/-- **The conductor's steps**, wherever he stands. -/
theorem conducts_of_spins (spins : s.conduct.Spins s') : s.Conducts s' := by
  cases here : s.spot with
  | directory | common => exact conducts_early (by rw [here]; rfl) spins
  | preparing i => exact conducts_preparing here spins
  | noting i lines outcome => exact conducts_noting here spins
  | creating i task job => exact conducts_creating here spins
  | starting i task job => exact conducts_starting here spins
  | generating i interval => exact conducts_generating here spins
  | polling | pollingClock | pollingState i | resting => exact conducts_polling (by rw [here]; rfl) spins
  | dropping =>
    simp only [conduct, here] at spins
    cases spins
    rw [← here]
    exact .dropped here
  | stopping i call => exact conducts_stopping here spins
  | joining i => exact conducts_joining here spins
  | joiningGenerator i => exact conducts_joiningGenerator here spins
  | returned outcome =>
    simp only [conduct, here] at spins
    cases spins

/-! ## Where he goes by himself -/

/-- The conductor goes on behind the common start, and all that was set up is as it was. -/
structure Proceeds (s s' : Session) : Prop where
  host : s'.host = s.host
  experiment : s'.experiment = s.experiment
  store : s'.store = s.store
  t0 : s'.t0 = s.t0
  tasks : s'.tasks = s.tasks
  generators : s'.generators = s.generators
  handles : s'.handles = s.handles
  running : s.running = false → s'.running = false
  late : s'.spot.isEarly = false

theorem proceeds_goto (s : Session) {spot : Spot} (late : spot.isEarly = false) : s.Proceeds (s.goto spot) where
  host := rfl
  experiment := rfl
  store := rfl
  t0 := rfl
  tasks := rfl
  generators := rfl
  handles := rfl
  running := id
  late := late

theorem proceeds_giveUp (s : Session) (e : Error) : s.Proceeds (s.giveUp e) := by
  unfold giveUp
  split
  · exact s.proceeds_goto rfl
  · exact { s.proceeds_goto (rfl : Spot.dropping.isEarly = false) with }

theorem proceeds_setUp (s : Session) (i : Nat) : s.Proceeds (s.setUp i) := by
  unfold setUp
  split
  · exact s.proceeds_goto rfl
  · split
    · exact s.proceeds_goto rfl
    · split <;> exact s.proceeds_goto rfl

theorem proceeds_stopFrom (s : Session) (i : Nat) : s.Proceeds (s.stopFrom i) := by
  unfold stopFrom
  split
  · exact s.proceeds_goto rfl
  · apply s.proceeds_goto
    split <;> rfl

theorem proceeds_stopped (s : Session) (i : Nat) : s.Proceeds (s.stopped i) := by
  unfold stopped
  split
  · exact s.proceeds_goto rfl
  · exact s.proceeds_stopFrom _

theorem proceeds_joined (s : Session) (i : Nat) : s.Proceeds (s.joined i) := by
  unfold joined
  split
  · exact s.proceeds_stopFrom _
  · apply s.proceeds_goto
    split <;> rfl

end Session

end TaskTiming
