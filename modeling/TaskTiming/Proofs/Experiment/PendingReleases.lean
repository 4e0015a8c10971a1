import TaskTiming.Proofs.Experiment.Unwinding

/-!
# Pending releases

How far ahead of the clock a generator sleeps. A session is taken together with the instant at which its steps
are made (`Clocked`): a sleep that goes well ends when its release is due, and the common start lies behind a
reading of the clock by the delay of the experiment. What a generator adds to a release that is due is one
interval, so what it sleeps for is at most that far away, but for the first release, which lies as far ahead as
the delay and the offset of the task put it (`Generator.Pends`). Whoever waits for the generators waits for
that release (`pending_release_is_near_unless_first`), be it longer than the interval or not
(`generator_sleeps_past_interval`).
-/

namespace TaskTiming
set_option autoImplicit false

/-- A turn that is made at an instant: a reading of the clock tells that instant, and a sleep that goes well
is over by then. -/
inductive Turn.SpinsAt {σ : Type} (now : Time) : Turn σ → σ → Prop
  | go (s : σ) : SpinsAt now (.go s) s
  | ask (request : Request) (next : Result Unit → σ) (outcome : Result Unit)
      (past : ∀ instant, request = .sleepUntil instant → outcome = .ok () → instant ≤ now) :
      SpinsAt now (.ask request next) (next outcome)
  | readClock (next : Result Time → σ) (reading : Result Time) (tells : ∀ t, reading = .ok t → t = now) :
      SpinsAt now (.readClock next) (next reading)
  | finishJob (next : JobEnd → σ) : SpinsAt now (.finishJob next) (next (.finished (.ok ())))

theorem Turn.SpinsAt.spins {σ : Type} {now : Time} {turn : Turn σ} {s : σ} (spins : turn.SpinsAt now s) :
    turn.Spins s := by
  cases spins with
  | go => exact .go s
  | ask request next => exact .ask request next _
  | readClock next => exact .readClock next _
  | finishJob next => exact .finishJob next

/-! ## One generator -/

namespace Generator

/-- A step of a generator at an instant. -/
inductive Goes (now : Time) (running : Bool) (g : Generator) : Generator → Prop
  | look (here : g.spot = .look) : Goes now running g (g.looked running)
  | sleep (here : g.spot = .sleep) {outcome : Result Unit} (past : outcome = .ok () → g.release ≤ now) :
      Goes now running g (g.slept outcome)
  | signal (here : g.spot = .signal) (outcome : Result Unit) : Goes now running g (g.signalled outcome)
  | complain {e : Error} (here : g.spot = .complaining e) : Goes now running g { g with spot := .ended }

/-- The pending release of a generator is its first one, or an interval away at most. -/
structure Pends (first now : Time) (g : Generator) : Prop where
  near : g.release = first ∨ g.release.toNanos ≤ now.toNanos + g.interval.toNanos
  due : g.spot = .signal → g.release.toNanos ≤ now.toNanos

variable {first now later : Time} {running : Bool} {g g' : Generator}

theorem pends_start (taskName : String) (task : Nat) (first interval now : Time) :
    (start taskName task first interval).Pends first now where
  near := .inl rfl
  due here := by cases here

theorem Pends.mono (pends : g.Pends first now) (le : now ≤ later) : g.Pends first later := by
  obtain ⟨near, due⟩ := pends
  rw [Time.le_iff_toNanos] at le
  refine ⟨?_, fun here => Nat.le_trans (due here) le⟩
  rcases near with same | near
  · exact .inl same
  · exact .inr (by omega)

theorem Goes.task (goes : g.Goes now running g') : g'.task = g.task := by
  cases goes with
  | look =>
    unfold looked
    split
    · split <;> rfl
    · rfl
  | sleep => unfold slept; split <;> rfl
  | signal => unfold signalled; split <;> rfl
  | complain => rfl

/-- An interval is added to releases that are due, and to no others. -/
theorem Pends.goes (pends : g.Pends first now) (goes : g.Goes now running g') : g'.Pends first now := by
  obtain ⟨near, due⟩ := pends
  cases goes with
  | look here =>
    unfold looked
    split
    · split
      · exact ⟨near, nofun⟩
      · exact ⟨near, nofun⟩
    · exact ⟨near, nofun⟩
  | sleep here past =>
    unfold slept
    split
    · exact ⟨near, fun _ => Time.le_iff_toNanos.1 (past rfl)⟩
    · exact ⟨near, nofun⟩
  | signal here outcome =>
    have due := due here
    unfold signalled
    split
    · refine ⟨.inr ?_, nofun⟩
      dsimp only
      rw [Time.add_eq, Time.toNanos_ofNanosClamped]
      omega
    · exact ⟨near, nofun⟩
  | complain => exact ⟨near, nofun⟩

/-- Nobody goes to sleep once the session was ended. -/
theorem Goes.awake (goes : g.Goes now false g') : g'.spot ≠ .sleep := by
  cases goes with
  | look => simp [looked]
  | sleep => unfold slept; split <;> simp
  | signal => unfold signalled; split <;> simp
  | complain => simp

end Generator

/-! ## Sessions with a clock -/

/-- A session and the instant at which its steps are made. -/
structure Clocked where
  session : Session
  now : Time

namespace Clocked

/-- Before the first step. -/
def start (host : Host) (experiment : Experiment) (store : Store) (now : Time) : Clocked :=
  { session := .start host experiment store, now }

/-- Time goes on, or somebody takes an atomic step. -/
inductive Step (c : Clocked) : Clocked → Prop
  | tick {later : Time} (le : c.now ≤ later) : Step c { c with now := later }
  | conductor {session : Session} (spins : c.session.conduct.SpinsAt c.now session) : Step c { c with session }
  | task {i : Nat} {started : Started} {live : LiveTask} (here : c.session.tasks[i]? = some started)
      (goes : started.live.Goes live) : Step c { c with session := c.session.setLive i live }
  | generator {i : Nat} {session : Session} (spins : (c.session.generatorTurn i).SpinsAt c.now session) :
      Step c { c with session }
  | interruption : Step c { c with session := c.session.interrupt }

/-- Steps in any order lead from one state to another. -/
def Reaches : Clocked → Clocked → Prop := Relation.ReflTransGen Step

variable {c c' : Clocked}

theorem Reaches.session (reaches : c.Reaches c') : c.session.Reaches c'.session := by
  induction reaches with
  | refl => exact .refl
  | tail _ step ih =>
    cases step with
    | tick => exact ih
    | conductor spins => exact ih.tail (.conductor spins.spins)
    | task here goes => exact ih.tail (.task here goes)
    | generator spins => exact ih.tail (.generator spins.spins)
    | interruption => exact ih.tail .interruption

end Clocked

/-! ## What steps are for the generators -/

namespace Session

/-- The generators are left alone, and all else that their releases depend on. -/
structure Beside (s s' : Session) : Prop where
  experiment : s'.experiment = s.experiment
  t0 : s'.t0 = s.t0
  generators : s'.generators = s.generators
  tasks : ∀ ⦃i : Nat⦄ ⦃t⦄, s.tasks[i]? = some t →
    ∃ t', s'.tasks[i]? = some t' ∧ t'.live.machine.task = t.live.machine.task
  running : s.running = false → s'.running = false
  spot : s'.spot.isEarly = false ∨ s'.spot = s.spot

variable {s s' s'' : Session} {i : Nat} {now : Time}

theorem Beside.trans (first : s.Beside s') (second : s'.Beside s'') : s.Beside s'' where
  experiment := second.experiment.trans first.experiment
  t0 := second.t0.trans first.t0
  generators := second.generators.trans first.generators
  tasks i t here := by
    obtain ⟨t', there, same⟩ := first.tasks here
    obtain ⟨t'', later, same'⟩ := second.tasks there
    exact ⟨t'', later, same'.trans same⟩
  running := second.running ∘ first.running
  spot := by
    rcases second.spot with late | same
    · exact .inl late
    · rw [same]
      exact first.spot

theorem Proceeds.beside (proceeds : s.Proceeds s') : s.Beside s' where
  experiment := proceeds.experiment
  t0 := proceeds.t0
  generators := proceeds.generators
  tasks i t here := ⟨t, by rw [proceeds.tasks, here], rfl⟩
  running := proceeds.running
  spot := .inl proceeds.late

theorem beside_setLive {t : Started} {live : LiveTask} (here : s.tasks[i]? = some t)
    (same : live.machine.task = t.live.machine.task) : s.Beside (s.setLive i live) where
  experiment := rfl
  t0 := rfl
  generators := rfl
  tasks j u there := by
    refine ⟨_, task_setLive there i live, ?_⟩
    split
    · rename_i at'
      subst at'
      cases here.symm.trans there
      exact same
    · rfl
  running := id
  spot := .inr rfl

theorem beside_taskStarted (s : Session) (i : Nat) (t : ExperimentTask) (task : ReadyTask) (job : Calibration) :
    s.Beside (s.taskStarted i t task job) := by
  -- one more task behind those that there are
  have more (started : Started) (handles : Nat) {s' : Session}
      (rest : Beside { s with handles, tasks := s.tasks ++ [started] } s') : s.Beside s' := by
    obtain ⟨experiment, t0, generators, tasks, running, spot⟩ := rest
    refine ⟨experiment, t0, generators, fun i t here => tasks ?_, running, spot⟩
    rw [List.getElem?_append_left (List.getElem?_eq_some_iff.1 here).1]
    exact here
  unfold taskStarted
  dsimp only
  split
  · exact more _ s.handles (proceeds_goto _ rfl).beside
  · exact more _ (s.handles + 1) (proceeds_setUp _ _).beside

/-- Whom the conductor holds is nothing to the generators. -/
theorem Beside.held {handles : Nat} {generators : List Generator}
    (beside : Beside { s with handles, generators } s') : Beside { s with generators } s' :=
  ⟨beside.experiment, beside.t0, beside.generators, beside.tasks, beside.running, beside.spot⟩

/-- What the conductor's step at an instant is for the generators. -/
inductive ConductsAt (now : Time) (s s' : Session) : Prop
  | entering (here : s.spot = .directory) (same : s' = s.goto .common)
  /-- The common start is found. -/
  | beginning {t0 : Time} (here : s.spot = .common) (sum : now.add? s.experiment.startDelay = .ok t0)
      (beside : Beside { s with t0 } s')
  /-- A generator is started for the task that was started last. -/
  | generating {started : Started} (interval : Time) (last : s.tasks.getLast? = some started)
      (late : s.spot.isEarly = false)
      (beside : Beside { s with generators := s.generators ++ [s.newGenerator interval started] } s')
  | beside (beside : s.Beside s')

/-- The common start is what the clock says and the delay. -/
theorem conductsAt_common (here : s.spot = .common) (spins : s.conduct.SpinsAt now s') : s.ConductsAt now s' := by
  simp only [conduct, here] at spins
  cases spins with
  | readClock _ reading tells =>
    cases reading with
    | error e => exact .beside (s.proceeds_goto rfl).beside
    | ok t =>
      obtain rfl := tells t rfl
      cases sum : t.add? s.experiment.startDelay with
      | error e =>
        simp only [Except.bind, sum, Result.ofTime]
        exact .beside (s.proceeds_goto rfl).beside
      | ok t0 =>
        simp only [Except.bind, sum, Result.ofTime]
        exact .beginning here sum (proceeds_setUp _ 0).beside

theorem conductsAt_of_spinsAt (spins : s.conduct.SpinsAt now s') : s.ConductsAt now s' := by
  by_cases common : s.spot = .common
  · exact conductsAt_common common spins
  cases conducts_of_spins spins.spins with
  | entered here => exact .entering here rfl
  | began here => exact (common here).elim
  | generates here last =>
    exact .generating _ last (by rw [here]; rfl) (Beside.held (proceeds_setUp _ _).beside)
  | started => exact .beside (s.beside_taskStarted _ _ _ _)
  | passed | nobody => exact .beside (s.proceeds_setUp _).beside
  | refused | uncreated | unstarted | ungenerated => exact .beside (s.proceeds_giveUp _).beside
  | unbegun | clockless | prepared | noted | accepted | created | joinedAll | joinedGenerator | returned =>
    exact .beside (s.proceeds_goto rfl).beside
  | polled here on =>
    refine .beside (s.proceeds_goto (Spot.not_isEarly (on.imp_right ?_))).beside
    rintro rfl
    rfl
  | dropped =>
    have proceeds := proceeds_stopFrom { s with running := false } 0
    exact .beside (Proceeds.beside { proceeds with running := fun _ => proceeds.running rfl })
  | stopped => exact .beside (s.proceeds_stopped _).beside
  | stops here there part =>
    obtain ⟨_, stopped⟩ := Live.stopped_of_leads part.leads
    have same := congrArg Thread.task stopped.machine
    exact .beside ((beside_setLive (tasks_of_held there) same).trans (proceeds_goto _ rfl).beside)
  | @joined i _ firstError =>
    have proceeds := proceeds_joined { s with firstError } i
    exact .beside (Proceeds.beside { proceeds with })

/-- None of the conductor's steps touches a generator that there is. -/
theorem ConductsAt.generator (conducts : s.ConductsAt now s') {g : Generator} (here : s.generators[i]? = some g) :
    s'.generators[i]? = some g := by
  cases conducts with
  | entering at' same =>
    subst same
    exact here
  | beginning at' sum beside => rwa [beside.generators]
  | generating interval last late beside =>
    rw [beside.generators, List.getElem?_append_left (List.getElem?_eq_some_iff.1 here).1, here]
  | beside beside => rwa [beside.generators]

theorem ConductsAt.running (conducts : s.ConductsAt now s') (dropped : s.running = false) : s'.running = false := by
  cases conducts with
  | entering at' same =>
    subst same
    exact dropped
  | beginning at' sum beside => exact beside.running dropped
  | generating interval last late beside => exact beside.running dropped
  | beside beside => exact beside.running dropped

/-- A generator goes on, and nothing else that concerns generators. -/
theorem goes_of_generatorTurn (spins : (s.generatorTurn i).SpinsAt now s') :
    ∃ g g', s.generators[i]? = some g ∧ g.Goes now s.running g' ∧ (s.setGenerator i g').Beside s' := by
  have refl (g' : Generator) : (s.setGenerator i g').Beside (s.setGenerator i g') :=
    ⟨rfl, rfl, rfl, fun _ t here => ⟨t, here, rfl⟩, id, .inr rfl⟩
  cases generates_of_spins spins.spins with
  | looked here spot => exact ⟨_, _, here, .look spot, refl _⟩
  | complained here spot => exact ⟨_, _, here, .complain spot, refl _⟩
  | @slept g here spot =>
    have sleeps : s.generatorTurn i = .ask (.sleepUntil g.release) fun r => s.setGenerator i (g.slept r) := by
      simp only [generatorTurn, here, spot]
    rw [sleeps] at spins
    generalize after : s.setGenerator i (g.slept _) = s' at spins
    cases spins with
    | ask _ _ outcome past => exact ⟨g, _, here, .sleep spot (past g.release rfl), refl _⟩
  | @signalled g t here spot there =>
    have released : s.Beside (s.setLive g.task t.live.release.2) := beside_setLive there rfl
    obtain ⟨experiment, t0, -, tasks, running, spot'⟩ := released
    exact ⟨g, _, here, .signal spot t.live.release.1, experiment, t0, rfl, tasks, running, spot'⟩

end Session

namespace Clocked

variable {c c' : Clocked} {session : Session} {experiment : Experiment} {i : Nat} {g : Generator}

/-- What holds of the pending releases at every instant. -/
structure Pending (experiment : Experiment) (c : Clocked) : Prop where
  same : c.session.experiment = experiment
  early : c.session.spot.isEarly = true → c.session.generators = []
  start_le : c.session.t0.toNanos ≤ c.now.toNanos + experiment.startDelay.toNanos
  generators : ∀ g ∈ c.session.generators, ∃ started, c.session.tasks[g.task]? = some started ∧
    g.Pends (c.session.t0 + started.live.machine.task.params.offset) c.now

theorem Pending.beside (pending : c.Pending experiment) (beside : c.session.Beside session) :
    Pending experiment { c with session } where
  same := beside.experiment.trans pending.same
  early early := by
    rw [beside.generators]
    rcases beside.spot with late | same
    · simp [late] at early
    · exact pending.early (by rwa [same] at early)
  start_le := by
    rw [beside.t0]
    exact pending.start_le
  generators g mem := by
    rw [beside.generators] at mem
    obtain ⟨started, there, pends⟩ := pending.generators g mem
    obtain ⟨started', later, same⟩ := beside.tasks there
    refine ⟨started', later, ?_⟩
    rw [beside.t0, same]
    exact pends

/-- The common start is found while there are no generators. -/
theorem Pending.beginning (pending : c.Pending experiment) (here : c.session.spot = .common) {t0 : Time}
    (sum : c.now.add? experiment.startDelay = .ok t0) :
    Pending experiment { c with session := { c.session with t0 } } := by
  have none : c.session.generators = [] := pending.early (by rw [here]; rfl)
  refine ⟨pending.same, fun _ => none, ?_, fun g mem => ?_⟩
  · rw [Time.add?_eq, Time.ofNanos?_eq_ok] at sum
    exact Nat.le_of_eq sum
  · rw [none] at mem
    exact (List.not_mem_nil mem).elim

/-- A generator is started with a first release behind the common start. -/
theorem Pending.generating (pending : c.Pending experiment) {started : Started} (interval : Time)
    (last : c.session.tasks.getLast? = some started) (late : c.session.spot.isEarly = false) :
    Pending experiment { c with session := { c.session with
      generators := c.session.generators ++ [c.session.newGenerator interval started] } } := by
  refine ⟨pending.same, fun early => ?_, pending.start_le, fun g mem => ?_⟩
  · rw [late] at early
    cases early
  · rcases List.mem_append.1 mem with before | new
    · exact pending.generators g before
    · rw [List.mem_singleton.1 new]
      rw [List.getLast?_eq_getElem?] at last
      exact ⟨started, last, Generator.pends_start ..⟩

theorem Pending.goes (pending : c.Pending experiment) {g' : Generator}
    (here : c.session.generators[i]? = some g) (goes : g.Goes c.now c.session.running g') :
    Pending experiment { c with session := c.session.setGenerator i g' } := by
  refine ⟨pending.same, fun early => ?_, pending.start_le, fun h mem => ?_⟩
  · rw [pending.early early] at here
    simp at here
  · rcases List.mem_or_eq_of_mem_set mem with before | rfl
    · exact pending.generators h before
    · obtain ⟨started, there, pends⟩ := pending.generators g (List.mem_of_getElem? here)
      exact ⟨started, by rw [goes.task]; exact there, pends.goes goes⟩

/-- **No step puts a release further away** than an interval. -/
theorem Pending.step (pending : c.Pending experiment) (sound : c.session.Sound) (step : c.Step c') :
    c'.Pending experiment := by
  cases step with
  | tick le =>
    obtain ⟨same, early, start_le, generators⟩ := pending
    have le' := Time.le_iff_toNanos.1 le
    refine ⟨same, early, ?_, fun g mem => ?_⟩
    · dsimp only
      omega
    · obtain ⟨started, there, pends⟩ := generators g mem
      exact ⟨started, there, pends.mono le⟩
  | conductor spins =>
    cases Session.conductsAt_of_spinsAt spins with
    | entering here same =>
      subst same
      have none := pending.early (by rw [here]; rfl)
      exact ⟨pending.same, fun _ => none, pending.start_le, pending.generators⟩
    | beginning here sum beside =>
      rw [pending.same] at sum
      exact (pending.beginning here sum).beside beside
    | generating interval last late beside =>
      exact (pending.generating interval last late).beside beside
    | beside beside => exact pending.beside beside
  | task here goes =>
    exact pending.beside (Session.beside_setLive here (Live.advances_of_goes (sound.live here) goes).task)
  | generator spins =>
    obtain ⟨g, g', here, goes, beside⟩ := Session.goes_of_generatorTurn spins
    exact (pending.goes here goes).beside beside
  | interruption => exact ⟨pending.same, pending.early, pending.start_le, pending.generators⟩

theorem Reaches.pending {host : Host} {store : Store} {now : Time}
    (reaches : (start host experiment store now).Reaches c) : c.Pending experiment := by
  induction reaches with
  | refl => exact ⟨rfl, fun _ => rfl, Nat.zero_le _, fun g mem => (List.not_mem_nil mem).elim⟩
  | tail before step ih => exact ih.step (Session.sound_and_stands (Reaches.session before)).1 step

/-! ## Behind the end of a session -/

/-- A generator of a session that was ended stays where it is, or is not asleep. -/
theorem Step.kept (step : c.Step c') (dropped : c.session.running = false)
    (here : c.session.generators[i]? = some g) :
    c'.session.running = false ∧
      ∃ g', c'.session.generators[i]? = some g' ∧ (g' = g ∨ g'.spot ≠ .sleep) := by
  have same : ∃ g', c.session.generators[i]? = some g' ∧ (g' = g ∨ g'.spot ≠ .sleep) := ⟨g, here, .inl rfl⟩
  cases step with
  | tick => exact ⟨dropped, same⟩
  | task => exact ⟨dropped, same⟩
  | interruption => exact ⟨rfl, same⟩
  | conductor spins =>
    have conducts := Session.conductsAt_of_spinsAt spins
    exact ⟨conducts.running dropped, g, conducts.generator here, .inl rfl⟩
  | @generator j session spins =>
    obtain ⟨h, h', there, goes, beside⟩ := Session.goes_of_generatorTurn spins
    refine ⟨beside.running dropped, ?_⟩
    rw [beside.generators]
    dsimp only [Session.setGenerator]
    by_cases at' : j = i
    · subst at'
      rw [dropped] at goes
      exact ⟨h', List.getElem?_set_self (List.getElem?_eq_some_iff.1 there).1, .inr goes.awake⟩
    · exact ⟨g, by rw [List.getElem?_set_ne at', here], .inl rfl⟩

/-- Who sleeps behind the end of a session has slept for the same release since then. -/
theorem Reaches.kept (reaches : c.Reaches c') (dropped : c.session.running = false)
    (here : c.session.generators[i]? = some g) :
    c'.session.running = false ∧
      ∃ g', c'.session.generators[i]? = some g' ∧ (g'.spot = .sleep → g' = g) := by
  induction reaches with
  | refl => exact ⟨dropped, g, here, fun _ => rfl⟩
  | tail _ step ih =>
    obtain ⟨dropped, g', there, slept⟩ := ih
    obtain ⟨still, g'', later, rfl | awake⟩ := step.kept dropped there
    · exact ⟨still, g'', later, slept⟩
    · exact ⟨still, g'', later, fun asleep => (awake asleep).elim⟩

/-- **A pending release is an interval away at most, unless it is the first one.** At every instant of a session
each generator has a release pending that is its first one, at the offset of its task behind the common start, or
lies at most an interval ahead; the first one lies ahead by the delay and the offset at most. Once the session
was ended, whoever still sleeps sleeps for the release that was pending then. -/
theorem pending_release_is_near_unless_first {host : Host} {store : Store} {now : Time}
    (reaches : (start host experiment store now).Reaches c) (here : c.session.generators[i]? = some g) :
    ∃ started first, c.session.tasks[g.task]? = some started ∧
      first = c.session.t0 + started.live.machine.task.params.offset ∧
      (g.release.toNanos ≤ c.now.toNanos + g.interval.toNanos ↔
        g.release ≠ first ∨ first.toNanos ≤ c.now.toNanos + g.interval.toNanos) ∧
      g.release.toNanos ≤ c.now.toNanos + max g.interval.toNanos
        (experiment.startDelay.toNanos + started.live.machine.task.params.offset.toNanos) ∧
      (c.session.running = false → ∀ c', c.Reaches c' →
        ∃ g', c'.session.generators[i]? = some g' ∧ (g'.spot = .sleep → g' = g)) := by
  have pending := reaches.pending
  obtain ⟨started, there, near, -⟩ := pending.generators g (List.mem_of_getElem? here)
  refine ⟨started, _, there, rfl, ⟨fun le => ?_, fun cases => ?_⟩, ?_, fun dropped c' later => ?_⟩
  · by_cases same : g.release = c.session.t0 + started.live.machine.task.params.offset
    · exact .inr (same ▸ le)
    · exact .inl same
  · rcases near with same | near
    · rw [same]
      exact cases.resolve_left fun ne => ne same
    · exact near
  · have start_le := pending.start_le
    rcases near with same | near
    · rw [same, Time.add_eq, Time.toNanos_ofNanosClamped]
      omega
    · omega
  · exact (later.kept dropped here).2

end Clocked

/-! ## A late first release -/

namespace Clocked.LateRelease

open Session (OneTask.host OneTask.store OneTask.calibration)

/-- A task that is first released an hour behind the common start. -/
def params : TaskParams :=
  { TaskParams.aperiodic "srv" (.ofMillis 1) (.ofMillis 2) with
    offset := .ofSecs 3600, stats := { enabled := false, capacity := 0, policy := .overwrite } }

/-- One release follows another one after 20 milliseconds. -/
def task : ExperimentTask :=
  { params, cpu := none, priority := none, log := none, releaseInterval := some (.ofMillis 20) }

def experiment : Experiment :=
  { duration := none, cpu := 0, logDir := ⟨"logs"⟩, realtime := false, startDelay := .zero, tasks := [task] }

def ready (header : List UInt8) : ReadyTask :=
  { params, t0 := .ofSecs 5, ring := none, log := { bytes := header, samples := 0 }, path := task.logPath ⟨"logs"⟩ }

/-- The session before the task is started. -/
def early (spot : Session.Spot) : Clocked :=
  { session := { Session.start OneTask.host experiment OneTask.store with t0 := .ofSecs 5, spot }, now := .ofSecs 5 }

def started (header : List UInt8) : Started :=
  ⟨Live.start (Thread.start (ready header) .bestEffort), OneTask.calibration⟩

/-- The session with its only task. -/
def late (header : List UInt8) (spot : Session.Spot) (generators : List Generator) (running : Bool) : Clocked :=
  { early spot with session := { (early spot).session with
      tasks := [started header], handles := generators.length, generators, running } }

def generator (spot : Generator.Spot) : Generator :=
  { name := "srv-releases", task := 0, interval := .ofMillis 20, release := .ofSecs 3605, spot }

theorem prepareBusy_eq_ok : ∃ header,
    ReadyTask.prepareBusy params (.ofSecs 5) OneTask.calibration (task.logPath ⟨"logs"⟩) =
      .ok (ready header, OneTask.calibration) := by
  have accepted : params.name.utf8ByteSize ≤ 4096 ∧ ∀ t ∈ [params.wcet, params.period, params.deadline, .ofSecs 5,
      params.offset, params.overheads.jobStats, params.overheads.finishToStart], t.sec.toNat < 2 ^ 32 := by decide
  obtain ⟨header, encoded⟩ := TaskParams.encode_header_iff.2 accepted
  refine ⟨header, ReadyTask.prepareBusy_eq_ok_iff.2 ⟨⟨.ofMillis 1, rfl, rfl⟩, ?_⟩⟩
  apply ReadyTask.prepare_eq_ok_iff.2
  exact ⟨rfl, ⟨_, rfl⟩, none, header, rfl, encoded, rfl⟩

theorem reaches_starting : ∃ header, (start OneTask.host experiment OneTask.store (.ofSecs 5)).Reaches
    (early (.starting 0 (ready header) OneTask.calibration)) := by
  obtain ⟨header, prepared⟩ := prepareBusy_eq_ok
  have noted : (early (.preparing 0)).session.prepare task =
      ([Session.overheadsLine params 0], .ok (ready header, OneTask.calibration)) := by
    rw [← prepared]
    rfl
  have noting : (early (.preparing 0)).session.conduct.SpinsAt (.ofSecs 5)
      (early (.noting 0 [Session.overheadsLine params 0] (.ok (ready header, OneTask.calibration)))).session := by
    rw [Session.conduct_of_preparing rfl rfl noted]
    exact .go _
  refine ⟨header, ?_⟩
  refine .head (.conductor (.ask _ _ (.ok ()) nofun)) ?_
  refine .head (.conductor (.readClock _ (.ok (.ofSecs 5)) (by rintro t ⟨⟩; rfl))) ?_
  refine .head (.conductor noting) ?_
  refine .head (.conductor (.ask _ _ (.ok ()) nofun)) ?_
  refine .head (.conductor (.go _)) ?_
  refine .head (.conductor (.ask _ _ (.ok ()) nofun)) ?_
  exact .refl

theorem checked (header : List UInt8) : (ready header).checkStart true = .ok () := by
  have plain : ¬params.name.toList.contains '\x00' = true := by decide
  have aperiodic : ¬(params.release = .aperiodic ∧ (!true) = true) := by decide
  exact (if_neg aperiodic).trans (if_neg plain)

theorem interval : Session.intervalOf task = some (.ofMillis 20) := if_pos rfl

/-- The task is started, and its generator is next. -/
theorem spinsAt_starting (header : List UInt8) :
    (early (.starting 0 (ready header) OneTask.calibration)).session.conduct.SpinsAt (.ofSecs 5)
      (late header (.generating 0 (.ofMillis 20)) [] true).session := by
  have started : (early (.starting 0 (ready header) OneTask.calibration)).session.conduct.SpinsAt (.ofSecs 5)
      ((early (.starting 0 (ready header) OneTask.calibration)).session.taskStarted 0 task (ready header)
        OneTask.calibration) := by
    rw [Session.conduct_of_starting rfl (show _ = some task from rfl) (by rw [interval]; exact checked header)]
    exact .ask _ _ (.ok ()) nofun
  rw [Session.taskStarted, interval] at started
  exact started

/-- The generator sleeps, and then the session is ended. -/
theorem reaches_asleep : ∃ header, (start OneTask.host experiment OneTask.store (.ofSecs 5)).Reaches
    (late header .polling [generator .sleep] false) := by
  obtain ⟨header, starting⟩ := reaches_starting
  refine ⟨header, starting.trans ?_⟩
  have first : Time.ofSecs 5 + params.offset = .ofSecs 3605 := by decide
  have generating : (late header (.generating 0 (.ofMillis 20)) [] true).session.conduct.SpinsAt (.ofSecs 5)
      (late header .polling [generator .look] true).session := by
    rw [generator, ← first]
    exact .ask _ _ (.ok ()) nofun
  have looked : (generator .look).looked true = generator .sleep := by decide
  have looking : ((late header .polling [generator .look] true).session.generatorTurn 0).SpinsAt (.ofSecs 5)
      (late header .polling [generator .sleep] true).session := by
    rw [← looked]
    exact .go _
  refine .head (.conductor (spinsAt_starting header)) (.head (.conductor generating) ?_)
  exact .head (.generator looking) (.single .interruption)

end Clocked.LateRelease

namespace Clocked

open Session (OneTask.host OneTask.store)

/-- A first release that is an hour away when the session is ended is the one that the generator sleeps for from
then on. -/
theorem pending_release_is_near_unless_first_hour : ∃ header,
    (start OneTask.host LateRelease.experiment OneTask.store (.ofSecs 5)).Reaches
      (LateRelease.late header .polling [LateRelease.generator .sleep] false) ∧
    ∀ c', (LateRelease.late header .polling [LateRelease.generator .sleep] false).Reaches c' →
      ∃ g', c'.session.generators[0]? = some g' ∧ (g'.spot = .sleep → g'.release = .ofSecs 3605) := by
  obtain ⟨header, reaches⟩ := LateRelease.reaches_asleep
  refine ⟨header, reaches, fun c' later => ?_⟩
  obtain ⟨-, -, -, -, -, -, kept⟩ := pending_release_is_near_unless_first reaches (i := 0) rfl
  obtain ⟨g', there, slept⟩ := kept rfl c' later
  exact ⟨g', there, fun asleep => by rw [slept asleep]; rfl⟩

/-- **A generator may sleep past an interval** behind the end of its session: the experiment is accepted, the
interval is 20 milliseconds, and the release that it sleeps for is an hour away. -/
theorem generator_sleeps_past_interval :
    LateRelease.experiment.validate = .ok () ∧
    ∃ c, (start OneTask.host LateRelease.experiment OneTask.store (.ofSecs 5)).Reaches c ∧
      c.session.running = false ∧ ∃ g ∈ c.session.generators, g.spot = .sleep ∧
        ¬g.release.toNanos ≤ c.now.toNanos + g.interval.toNanos := by
  obtain ⟨header, reaches⟩ := LateRelease.reaches_asleep
  have beyond : ¬(Time.ofSecs 3605).toNanos ≤ (Time.ofSecs 5).toNanos + (Time.ofMillis 20).toNanos := by decide
  exact ⟨rfl, _, reaches, rfl, _, List.mem_singleton_self _, rfl, beyond⟩

end Clocked

end TaskTiming
