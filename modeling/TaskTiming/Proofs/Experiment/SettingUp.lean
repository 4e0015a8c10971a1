import TaskTiming.Proofs.Experiment.Preparing

/-!
# Setting up tasks

The conductor sets up the tasks of an experiment in order, one at a time, and each task's log is made just
before its thread is started. Where the logs lie in different places (`Experiment.Separates`), the log of a
task that was started is told by what its thread has met, and those of the tasks behind it are as they were
when the session began (`Moment.Holds.step`).
-/

namespace TaskTiming
set_option autoImplicit false

namespace Moment

variable {m m' : Moment} {experiment : Experiment} {store : Store} {d₀ d' : Disk} {s' : Session} {i n : Nat}

/-- What is known of the tasks that were started, of their logs and of their generators. -/
structure Tracks (experiment : Experiment) (store : Store) (d₀ : Disk) (m : Moment) : Prop where
  experiment_eq : m.session.experiment = experiment
  store_eq : m.session.store = store
  here_eq : m.disk.here = d₀.here
  /-- Who was not started has met nothing. -/
  unmet : ∀ ⦃i⦄, m.session.tasks.length ≤ i → m.metBy i = []
  logs : ∀ ⦃i : Nat⦄ ⦃started⦄, m.session.tasks[i]? = some started → ∃ t, experiment.tasks[i]? = some t ∧
    started.live.machine.Keeps (m.session.paramsOf t) m.session.t0 (t.logPath experiment.logDir) m.disk
      (m.metBy i)
  generators : ∀ g ∈ m.session.generators, g.task < m.session.tasks.length

/-- The files of the logs from a position on are those that were there. -/
def Untouched (experiment : Experiment) (d₀ : Disk) (m : Moment) (n : Nat) : Prop :=
  ∀ ⦃i : Nat⦄ ⦃t⦄, n ≤ i → experiment.tasks[i]? = some t →
    m.disk.file? (experiment.logPlace d₀.here t) = d₀.file? (experiment.logPlace d₀.here t)

/-- The task behind those that were started was prepared with this outcome. -/
def Prepares (experiment : Experiment) (m : Moment) (i : Nat) (outcome : Result (ReadyTask × Calibration)) :
    Prop :=
  i = m.session.tasks.length ∧ ∃ t, experiment.tasks[i]? = some t ∧ (m.session.prepare t).2 = outcome

/-- What holds where the conductor stands in setting up. -/
def SetsUp (experiment : Experiment) (d₀ : Disk) (m : Moment) : Prop :=
  match m.session.spot with
  | .directory => m.session.tasks = [] ∧ m.Untouched experiment d₀ 0
  | .common => m.session.tasks = [] ∧ m.Untouched experiment d₀ 0
  | .preparing i => i = m.session.tasks.length ∧ m.Untouched experiment d₀ i
  | .noting i _ outcome => m.Prepares experiment i outcome ∧ m.Untouched experiment d₀ i
  | .creating i task job => m.Prepares experiment i (.ok (task, job)) ∧ m.Untouched experiment d₀ i
  | .starting i task job => m.Prepares experiment i (.ok (task, job)) ∧ m.Untouched experiment d₀ (i + 1) ∧
      m.disk.read task.path = .ok (.ok task.log.bytes)
  | .generating i _ => i + 1 = m.session.tasks.length ∧ m.Untouched experiment d₀ (i + 1)
  | _ => True

/-! ## Steps beside the conductor -/

theorem Prepares.alike {outcome : Result (ReadyTask × Calibration)} (prepares : m.Prepares experiment i outcome)
    (alike : m.session.Alike s') (disk : Disk) (met : List (Nat × Event)) :
    Prepares experiment { session := s', disk, met } i outcome := by
  obtain ⟨count, t, task, prepared⟩ := prepares
  refine ⟨count.trans alike.count.symm, t, task, ?_⟩
  rw [alike.prepare]
  exact prepared

theorem Untouched.mono (untouched : m.Untouched experiment d₀ i) (le : i ≤ n) : m.Untouched experiment d₀ n :=
  fun _ _ le' task => untouched (Nat.le_trans le le') task

/-- One who was started before writes his log. -/
theorem Untouched.changes (untouched : m.Untouched experiment d₀ n) (separates : experiment.Separates d₀.here)
    {t : ExperimentTask} (task : experiment.tasks[i]? = some t) (lt : i < n)
    (changes : m.disk.ChangesAt d' (experiment.logPlace d₀.here t)) (session : Session)
    (met : List (Nat × Event)) : Untouched experiment d₀ { session, disk := d', met } n := by
  intro j u le other
  have apart := separates other task (Nat.ne_of_gt (Nat.lt_of_lt_of_le lt le))
  exact (changes.file? apart).trans (untouched le other)

/-- Where the conductor stands, others leave as it is what he relies on. -/
theorem SetsUp.beside (setsUp : m.SetsUp experiment d₀) (alike : m.session.Alike s')
    (spot : s'.spot = m.session.spot) (met : List (Nat × Event))
    (untouched : ∀ n, m.session.tasks.length ≤ n → m.Untouched experiment d₀ n →
      Untouched experiment d₀ { session := s', disk := d', met } n)
    (read : ∀ task job, m.Prepares experiment m.session.tasks.length (.ok (task, job)) →
      m.disk.read task.path = .ok (.ok task.log.bytes) → d'.read task.path = .ok (.ok task.log.bytes)) :
    SetsUp experiment d₀ { session := s', disk := d', met } := by
  have none (empty : m.session.tasks = []) : s'.tasks = [] :=
    List.length_eq_zero_iff.1 (alike.count.trans (by rw [empty]; rfl))
  unfold SetsUp at setsUp ⊢
  dsimp only
  rw [spot]
  cases here : m.session.spot with
  | directory | common =>
    rw [here] at setsUp
    exact ⟨none setsUp.1, untouched 0 (by rw [setsUp.1]; exact Nat.le_refl 0) setsUp.2⟩
  | preparing i =>
    rw [here] at setsUp
    obtain ⟨rfl, same⟩ := setsUp
    exact ⟨alike.count.symm, untouched _ (Nat.le_refl _) same⟩
  | noting i lines outcome =>
    rw [here] at setsUp
    obtain ⟨prepares, same⟩ := setsUp
    exact ⟨prepares.alike alike _ _, untouched _ (Nat.le_of_eq prepares.1.symm) same⟩
  | creating i task job =>
    rw [here] at setsUp
    obtain ⟨prepares, same⟩ := setsUp
    exact ⟨prepares.alike alike _ _, untouched _ (Nat.le_of_eq prepares.1.symm) same⟩
  | starting i task job =>
    rw [here] at setsUp
    obtain ⟨prepares, same, file⟩ := setsUp
    refine ⟨prepares.alike alike _ _, untouched _ ?_ same, read task job ?_ file⟩
    · exact Nat.le_trans (Nat.le_of_eq prepares.1.symm) (Nat.le_succ i)
    · rw [← prepares.1]
      exact prepares
  | generating i interval =>
    rw [here] at setsUp
    obtain ⟨count, same⟩ := setsUp
    exact ⟨count.trans alike.count.symm, untouched _ (Nat.le_of_eq count.symm) same⟩
  | _ => trivial

/-- A task that is prepared has the path of its log. -/
theorem Prepares.path {task : ReadyTask} {job : Calibration}
    (prepares : m.Prepares experiment i (.ok (task, job))) : ∃ t, experiment.tasks[i]? = some t ∧
      ReadyTask.prepare (m.session.paramsOf t) m.session.t0 (t.logPath m.session.experiment.logDir) = .ok task ∧
      task.path = t.logPath m.session.experiment.logDir := by
  obtain ⟨-, t, here, prepared⟩ := prepares
  have ready := Session.prepared_of_prepare prepared
  obtain ⟨-, -, ring, header, -, -, rfl⟩ := ReadyTask.prepare_eq_ok_iff.1 ready
  exact ⟨t, here, ready, rfl⟩

/-- All threads stay where they are. -/
theorem Tracks.alike (tracks : m.Tracks experiment store d₀) (alike : m.session.Alike s')
    (threads : m.session.SameThreads s') : Tracks experiment store d₀ { m with session := s' } where
  experiment_eq := alike.experiment.trans tracks.experiment_eq
  store_eq := alike.store.trans tracks.store_eq
  here_eq := tracks.here_eq
  unmet i le := tracks.unmet (i := i) (by rw [← alike.count]; exact le)
  logs i started here := by
    have same := threads i
    rw [here] at same
    obtain ⟨started', before, machine⟩ := Option.map_eq_some_iff.1 same.symm
    obtain ⟨t, task, keeps⟩ := tracks.logs before
    refine ⟨t, task, ?_⟩
    rw [machine] at keeps
    rw [alike.paramsOf, alike.t0]
    exact keeps
  generators g mem := by
    have released := List.mem_map_of_mem (f := (·.task)) mem
    rw [alike.released] at released
    obtain ⟨g', mem', same⟩ := List.mem_map.1 released
    rw [← same, alike.count]
    exact tracks.generators g' mem'

/-- The disk changes in no place of a log that a thread writes. -/
theorem Tracks.changes (tracks : m.Tracks experiment store d₀) {place : Place}
    (changes : m.disk.ChangesAt d' place)
    (apart : ∀ ⦃i t⦄, i < m.session.tasks.length → experiment.tasks[i]? = some t →
      experiment.logPlace d₀.here t ≠ place) : Tracks experiment store d₀ { m with disk := d' } where
  experiment_eq := tracks.experiment_eq
  store_eq := tracks.store_eq
  here_eq := changes.keeps.here.trans tracks.here_eq
  unmet := tracks.unmet
  logs i started here := by
    obtain ⟨t, task, keeps⟩ := tracks.logs here
    refine ⟨t, task, keeps.elsewhere changes ?_⟩
    rw [tracks.here_eq]
    exact apart (List.getElem?_eq_some_iff.1 here).1 task
  generators := tracks.generators

/-- **A task takes a step**, and with it its log. -/
theorem Tracks.task (tracks : m.Tracks experiment store d₀) (separates : experiment.Separates d₀.here)
    (sound : m.session.Sound) {started : Started} {live : LiveTask} {told : List Event}
    (here : m.session.tasks[i]? = some started) (does : started.live.Does m.disk live told d') :
    Tracks experiment store d₀ { session := m.session.setLive i live, disk := d', met := m.tell i told } := by
  have alike := m.session.alike_setLive i live
  cases does with
  | waited goes machine control =>
    have same := tracks.alike alike (Session.sameThreads_setLive here machine)
    have met : m.tell i [] = m.met := List.append_nil _
    rw [met]
    exact same
  | @met e _ goes meets moves on =>
    have lt : i < m.session.tasks.length := (List.getElem?_eq_some_iff.1 here).1
    obtain ⟨t, task, keeps⟩ := tracks.logs here
    have closed := (Live.onward_of_goes (sound.live here) goes).sound.closed
    have changes := Thread.changesAt_of_meets meets on
    rw [keeps.path_eq] at changes
    refine {
      experiment_eq := tracks.experiment_eq, store_eq := tracks.store_eq
      here_eq := changes.keeps.here.trans tracks.here_eq
      unmet := ?_, logs := ?_, generators := ?_ }
    · intro j le
      rw [alike.count] at le
      rw [metBy_tell_of_ne _ _ _ (Nat.ne_of_lt (Nat.lt_of_lt_of_le lt le))]
      exact tracks.unmet le
    · intro j started' here'
      have found := here'
      rw [Session.setLive, List.getElem?_modify] at found
      obtain ⟨before, there, same⟩ := Option.map_eq_some_iff.1 found
      by_cases at' : i = j
      · subst at'
        rw [metBy_tell_self, Session.getElem?_setLive here']
        exact ⟨t, task, keeps.met meets closed on⟩
      · obtain ⟨u, other, keeps'⟩ := tracks.logs there
        rw [metBy_tell_of_ne _ _ _ at', ← same]
        simp only [at', if_false]
        refine ⟨u, other, keeps'.elsewhere changes ?_⟩
        rw [tracks.here_eq]
        exact separates other task (Ne.symm at')
    · intro g mem
      rw [alike.count]
      exact tracks.generators g mem

theorem SetsUp.task (setsUp : m.SetsUp experiment d₀) (tracks : m.Tracks experiment store d₀)
    (separates : experiment.Separates d₀.here) {started : Started} {live : LiveTask} {told : List Event}
    (here : m.session.tasks[i]? = some started) (does : started.live.Does m.disk live told d') :
    SetsUp experiment d₀ { session := m.session.setLive i live, disk := d', met := m.tell i told } := by
  have lt : i < m.session.tasks.length := (List.getElem?_eq_some_iff.1 here).1
  obtain ⟨t, task, keeps⟩ := tracks.logs here
  have changes : m.disk.ChangesAt d' (experiment.logPlace d₀.here t) := by
    cases does with
    | waited => exact .refl _ _
    | met _ meets _ on =>
      have changes := Thread.changesAt_of_meets meets on
      rw [keeps.path_eq, tracks.here_eq] at changes
      exact changes
  refine setsUp.beside (m.session.alike_setLive i live) rfl _ (fun n le untouched => ?_) fun ready job at' => ?_
  · exact untouched.changes separates task (Nat.lt_of_lt_of_le lt le) changes _ _
  · obtain ⟨u, other, -, path⟩ := at'.path
    refine changes.read ?_
    rw [path, tracks.here_eq, tracks.experiment_eq]
    exact separates other task (Nat.ne_of_gt lt)

/-! ## Steps of the conductor -/

/-- No log is kept yet. -/
theorem Tracks.of_none (tracks : m.Tracks experiment store d₀) (none : m.session.tasks = []) (t0 : Time)
    (here : d'.here = m.disk.here) :
    Tracks experiment store d₀ { m with session := { m.session with t0 }, disk := d' } where
  experiment_eq := tracks.experiment_eq
  store_eq := tracks.store_eq
  here_eq := here.trans tracks.here_eq
  unmet := tracks.unmet
  logs i started here := by
    have empty : m.session.tasks[i]? = some started := here
    rw [none] at empty
    cases empty
  generators := tracks.generators

theorem setsUp_setUp {s : Session} {d : Disk} {met : List (Nat × Event)} (count : i = s.tasks.length)
    (untouched : Untouched experiment d₀ ⟨s, d, met⟩ i) : SetsUp experiment d₀ ⟨s.setUp i, d, met⟩ := by
  unfold Session.setUp
  split
  · exact ⟨count, untouched⟩
  · split
    · trivial
    · split <;> trivial

theorem setsUp_giveUp (s : Session) (e : Error) (d : Disk) (met : List (Nat × Event)) :
    SetsUp experiment d₀ ⟨s.giveUp e, d, met⟩ := by
  unfold Session.giveUp
  split <;> trivial

/-- Behind the setting up there is nothing to it. -/
theorem setsUp_behind {s : Session} (on : s.spot.isPolling = true ∨ s.spot.isEnding = true) (d : Disk)
    (met : List (Nat × Event)) : SetsUp experiment d₀ ⟨s, d, met⟩ := by
  unfold SetsUp
  dsimp only
  cases here : s.spot with
  | polling | pollingClock | pollingState _ | resting | dropping | stopping _ _ | joining _ | joiningGenerator _
  | returned _ => trivial
  | _ =>
    rw [here] at on
    rcases on with on | on <;> cases on

/-- A task's thread is started behind the others. -/
theorem Tracks.started (tracks : m.Tracks experiment store d₀) {task : ReadyTask} {job : Calibration}
    (prepares : m.Prepares experiment i (.ok (task, job)))
    (file : m.disk.read task.path = .ok (.ok task.log.bytes)) (admission : Admission) (handles : Nat) :
    Tracks experiment store d₀ { m with
      session := { m.session with
        handles, tasks := m.session.tasks ++ [Started.mk (.start (.start task admission)) job] } } := by
  have more : (m.session.tasks ++ [Started.mk (.start (.start task admission)) job]).length =
      m.session.tasks.length + 1 := List.length_append
  refine {
    experiment_eq := tracks.experiment_eq, store_eq := tracks.store_eq, here_eq := tracks.here_eq
    unmet := ?_, logs := ?_, generators := ?_ }
  · intro j le
    rw [more] at le
    exact tracks.unmet (Nat.le_of_succ_le le)
  · intro j started here
    by_cases old : j < m.session.tasks.length
    · have before : m.session.tasks[j]? = some started := (List.getElem?_append_left old).symm.trans here
      exact tracks.logs before
    · have last : (m.session.tasks ++ [Started.mk (.start (.start task admission)) job])[j]? = some started := here
      have lt := (List.getElem?_eq_some_iff.1 last).1
      have new : j = m.session.tasks.length := by omega
      subst new
      rw [List.getElem?_concat_length] at last
      cases last
      obtain ⟨t, at', ready, path⟩ := prepares.path
      obtain ⟨header, made⟩ := ReadyTask.made_of_prepared ready file
      refine ⟨t, by rw [← prepares.1]; exact at', ?_⟩
      have none : metBy { m with session := { m.session with
          handles, tasks := m.session.tasks ++ [Started.mk (.start (.start task admission)) job] } }
          m.session.tasks.length = [] := tracks.unmet (Nat.le_refl _)
      rw [none]
      rw [tracks.experiment_eq] at made
      exact .start made admission
  · intro g mem
    rw [more]
    exact Nat.lt_succ_of_lt (tracks.generators g mem)

theorem sets_goto {spot : Session.Spot} (tracks : m.Tracks experiment store d₀)
    (setsUp : SetsUp experiment d₀ { m with session := m.session.goto spot }) :
    Tracks experiment store d₀ { m with session := m.session.goto spot } ∧
      SetsUp experiment d₀ { m with session := m.session.goto spot } :=
  ⟨tracks.alike (m.session.alike_goto spot) fun _ => rfl, setsUp⟩

theorem sets_setUp (tracks : m.Tracks experiment store d₀) (count : i = m.session.tasks.length)
    (untouched : m.Untouched experiment d₀ i) :
    Tracks experiment store d₀ { m with session := m.session.setUp i } ∧
      SetsUp experiment d₀ { m with session := m.session.setUp i } := by
  obtain ⟨alike, threads⟩ := (m.session.proceeds_setUp i).alike
  exact ⟨tracks.alike alike threads, setsUp_setUp count untouched⟩

theorem sets_giveUp (tracks : m.Tracks experiment store d₀) (e : Error) :
    Tracks experiment store d₀ { m with session := m.session.giveUp e } ∧
      SetsUp experiment d₀ { m with session := m.session.giveUp e } := by
  obtain ⟨alike, threads⟩ := (m.session.proceeds_giveUp e).alike
  exact ⟨tracks.alike alike threads, setsUp_giveUp _ _ _ _⟩

theorem sets_taskStarted {t : ExperimentTask} {task : ReadyTask} {job : Calibration}
    (tracks : m.Tracks experiment store d₀) (prepares : m.Prepares experiment i (.ok (task, job)))
    (untouched : m.Untouched experiment d₀ (i + 1)) (file : m.disk.read task.path = .ok (.ok task.log.bytes)) :
    Tracks experiment store d₀ { m with session := m.session.taskStarted i t task job } ∧
      SetsUp experiment d₀ { m with session := m.session.taskStarted i t task job } := by
  have started := tracks.started prepares file (m.session.admission t) m.session.handles
  have held := tracks.started prepares file (m.session.admission t) (m.session.handles + 1)
  have count : i + 1 = (m.session.tasks ++
      [Started.mk (.start (.start task (m.session.admission t))) job]).length := by
    rw [List.length_append, prepares.1]
    rfl
  unfold Session.taskStarted
  dsimp only
  split
  · exact sets_goto started ⟨count, untouched⟩
  · exact sets_setUp held count untouched

theorem sets_generatorStarted {interval : Time} {started : Started} (tracks : m.Tracks experiment store d₀)
    (count : i + 1 = m.session.tasks.length) (untouched : m.Untouched experiment d₀ (i + 1)) :
    Tracks experiment store d₀ { m with session := m.session.generatorStarted i interval started } ∧
      SetsUp experiment d₀ { m with session := m.session.generatorStarted i interval started } := by
  unfold Session.generatorStarted
  generalize new : m.session.newGenerator interval started = g
  have task : g.task = m.session.tasks.length - 1 := by rw [← new]; rfl
  have more (handles : Nat) : Tracks experiment store d₀
      { m with session := { m.session with handles, generators := m.session.generators ++ [g] } } := {
    experiment_eq := tracks.experiment_eq, store_eq := tracks.store_eq, here_eq := tracks.here_eq
    unmet := tracks.unmet, logs := tracks.logs
    generators := by
      intro g' mem
      rcases List.mem_append.1 mem with old | new
      · exact tracks.generators g' old
      · rw [List.mem_singleton.1 new, task]
        show m.session.tasks.length - 1 < m.session.tasks.length
        omega }
  exact sets_setUp (more _) count untouched

/-- Nobody's log is touched where another one is made. -/
theorem Tracks.create {task : ReadyTask} {job : Calibration} (tracks : m.Tracks experiment store d₀)
    (separates : experiment.Separates d₀.here) (prepares : m.Prepares experiment i (.ok (task, job))) :
    Tracks experiment store d₀ { m with disk := (m.disk.createWith task.path task.log.bytes).2 } := by
  obtain ⟨t, at', -, path⟩ := prepares.path
  have changes := m.disk.changesAt_createWith task.path task.log.bytes
  refine tracks.changes changes fun j u before other => ?_
  rw [path, tracks.here_eq, tracks.experiment_eq]
  exact separates other at' (Nat.ne_of_lt (prepares.1 ▸ before))

/-- The log of the next task is made. -/
theorem setsUp_created {task : ReadyTask} {job : Calibration} (tracks : m.Tracks experiment store d₀)
    (separates : experiment.Separates d₀.here) (prepares : m.Prepares experiment i (.ok (task, job)))
    (untouched : m.Untouched experiment d₀ i)
    (created : m.disk.createWith task.path task.log.bytes = (.ok (), d')) :
    SetsUp experiment d₀ { m with session := m.session.goto (.starting i task job), disk := d' } := by
  obtain ⟨t, at', -, path⟩ := prepares.path
  have changes := m.disk.changesAt_createWith task.path task.log.bytes
  rw [created, path, tracks.here_eq, tracks.experiment_eq] at changes
  have more := untouched.mono (Nat.le_succ i)
  exact ⟨prepares.alike (m.session.alike_goto _) d' m.met,
    more.changes separates at' (Nat.lt_succ_self i) changes _ _, Disk.read_createWith created⟩

/-- The log directory is made. -/
theorem sets_directory (tracks : m.Tracks experiment store d₀) (here : m.session.spot = .directory)
    (none : m.session.tasks = []) (untouched : m.Untouched experiment d₀ 0)
    (spins : m.session.conduct.SpinsOn m.disk s' d') :
    Tracks experiment store d₀ { m with session := s', disk := d' } ∧
      SetsUp experiment d₀ { m with session := s', disk := d' } := by
  simp only [Session.conduct, here] at spins
  cases spins with
  | @ask _ _ outcome d' on =>
    obtain ⟨-, rfl⟩ := Event.on_createDirectories.1 on
    have same := m.disk.sameFiles_createDirectories m.session.experiment.logDir
    have kept := tracks.of_none none m.session.t0 same.here
    have untouched' : Untouched experiment d₀ ⟨m.session, _, m.met⟩ 0 := fun j u le other =>
      (same.file _).trans (untouched le other)
    cases outcome with
    | ok done => exact sets_goto kept ⟨none, untouched'⟩
    | error e => exact sets_goto kept trivial

/-- The log of the next task is made, or cannot be. -/
theorem sets_creating {task : ReadyTask} {job : Calibration} (tracks : m.Tracks experiment store d₀)
    (separates : experiment.Separates d₀.here) (here : m.session.spot = .creating i task job)
    (prepares : m.Prepares experiment i (.ok (task, job))) (untouched : m.Untouched experiment d₀ i)
    (spins : m.session.conduct.SpinsOn m.disk s' d') :
    Tracks experiment store d₀ { m with session := s', disk := d' } ∧
      SetsUp experiment d₀ { m with session := s', disk := d' } := by
  simp only [Session.conduct, here] at spins
  cases spins with
  | @ask _ _ outcome _ on =>
    obtain ⟨said, rfl⟩ := Event.on_create.1 on
    have kept := tracks.create separates prepares
    cases outcome with
    | ok done =>
      have created : m.disk.createWith task.path task.log.bytes =
          (.ok (), (m.disk.createWith task.path task.log.bytes).2) := by
        cases answer : (m.disk.createWith task.path task.log.bytes).1 with
        | ok done => rw [← answer]
        | error cause =>
          rw [answer] at said
          cases said
      have setsUp := setsUp_created tracks separates prepares untouched created
      exact sets_goto kept setsUp
    | error e => exact sets_giveUp kept e

/-- Where he asks nothing of the disk. -/
theorem sets_conducts (tracks : m.Tracks experiment store d₀) (setsUp : m.SetsUp experiment d₀)
    (entered : m.session.spot ≠ .directory) (creates : ∀ i task job, m.session.spot ≠ .creating i task job)
    (conducts : m.session.Conducts s') :
    Tracks experiment store d₀ { m with session := s' } ∧ SetsUp experiment d₀ { m with session := s' } := by
  cases ending : m.session.spot.isEnding with
  | true =>
    obtain ⟨alike, threads⟩ := conducts.alike_of_ending ending
    refine ⟨tracks.alike alike threads, ?_⟩
    obtain ⟨-, -, -, still | returned⟩ := conducts.same_of_ending ending
    · exact setsUp_behind (.inr still) _ _
    · unfold SetsUp
      dsimp only
      rw [returned]
      trivial
  | false =>
    unfold SetsUp at setsUp
    cases conducts with
    | entered here => exact (entered here).elim
    | created here | uncreated here => exact (creates _ _ _ here).elim
    | unbegun | clockless => exact sets_goto tracks trivial
    | began here t0 =>
      rw [here] at setsUp
      obtain ⟨none, untouched⟩ := setsUp
      have count : 0 = m.session.tasks.length := by rw [none]; rfl
      exact sets_setUp (tracks.of_none none t0 rfl) count untouched
    | passed here =>
      rw [here] at setsUp
      exact sets_setUp tracks setsUp.1 setsUp.2
    | prepared here task =>
      rw [here] at setsUp
      rw [tracks.experiment_eq] at task
      exact sets_goto tracks ⟨⟨setsUp.1, _, task, rfl⟩, setsUp.2⟩
    | noted here | accepted here =>
      rw [here] at setsUp
      obtain ⟨prepares, untouched⟩ := setsUp
      exact sets_goto tracks ⟨prepares.alike (m.session.alike_goto _) _ _, untouched⟩
    | refused | unstarted | ungenerated => exact sets_giveUp tracks _
    | started here =>
      rw [here] at setsUp
      obtain ⟨prepares, untouched, file⟩ := setsUp
      exact sets_taskStarted tracks prepares untouched file
    | generates here =>
      rw [here] at setsUp
      exact sets_generatorStarted tracks setsUp.1 setsUp.2
    | nobody here =>
      rw [here] at setsUp
      exact sets_setUp tracks setsUp.1 setsUp.2
    | polled here on =>
      refine sets_goto tracks (setsUp_behind (on.imp_right ?_) _ _)
      rintro rfl
      rfl
    | dropped here | stopped here | stops here | joinedAll here | joined here | joinedGenerator here
    | returned here =>
      rw [here] at ending
      cases ending

/-- **What a step of the conductor leaves** of the logs, in setting up and behind it. -/
theorem sets_conduct (tracks : m.Tracks experiment store d₀) (setsUp : m.SetsUp experiment d₀)
    (separates : experiment.Separates d₀.here) (spins : m.session.conduct.SpinsOn m.disk s' d') :
    Tracks experiment store d₀ { m with session := s', disk := d' } ∧
      SetsUp experiment d₀ { m with session := s', disk := d' } := by
  by_cases entered : m.session.spot = .directory
  · unfold SetsUp at setsUp
    rw [entered] at setsUp
    exact sets_directory tracks entered setsUp.1 setsUp.2 spins
  by_cases creates : ∃ i task job, m.session.spot = .creating i task job
  · obtain ⟨i, task, job, here⟩ := creates
    unfold SetsUp at setsUp
    rw [here] at setsUp
    exact sets_creating tracks separates here setsUp.1 setsUp.2 spins
  · have other (i : Nat) (task : ReadyTask) (job : Calibration) : m.session.spot ≠ .creating i task job :=
      fun here => creates ⟨i, task, job, here⟩
    obtain rfl := spins.disk_eq (Session.quiet_conduct entered other)
    exact sets_conducts tracks setsUp entered other (Session.conducts_of_spins spins.spins)

/-! ## A session from its start -/

theorem sets_step (tracks : m.Tracks experiment store d₀) (setsUp : m.SetsUp experiment d₀)
    (separates : experiment.Separates d₀.here) (sound : m.session.Sound) (step : m.Step m') :
    m'.Tracks experiment store d₀ ∧ m'.SetsUp experiment d₀ := by
  cases step with
  | conductor spins => exact sets_conduct tracks setsUp separates spins
  | task here does => exact ⟨tracks.task separates sound here does, setsUp.task tracks separates here does⟩
  | generator spins =>
    obtain ⟨rfl, alike, threads, spot⟩ := Session.alike_generatorTurn spins
    refine ⟨tracks.alike alike threads, setsUp.beside alike spot m.met ?_ ?_⟩
    · exact fun _ _ untouched => untouched
    · exact fun _ _ _ file => file
  | interruption =>
    have alike : m.session.Alike m.session.interrupt := ⟨rfl, rfl, rfl, rfl, rfl, rfl, rfl⟩
    refine ⟨tracks.alike alike fun _ => rfl, setsUp.beside alike rfl m.met ?_ ?_⟩
    · exact fun _ _ untouched => untouched
    · exact fun _ _ _ file => file

/-- What holds at every moment of a session. -/
structure Holds (experiment : Experiment) (store : Store) (d₀ : Disk) (m : Moment) : Prop where
  tracks : m.Tracks experiment store d₀
  setsUp : m.SetsUp experiment d₀
  sound : m.session.Sound
  stands : m.session.Stands

theorem Holds.step (holds : m.Holds experiment store d₀) (separates : experiment.Separates d₀.here)
    (step : m.Step m') : m'.Holds experiment store d₀ := by
  obtain ⟨tracks, setsUp⟩ := sets_step holds.tracks holds.setsUp separates holds.sound step
  rcases step.session.conducted_or_onward holds.sound with spins | ⟨onward, spot⟩
  · have follows := Session.follows_of_conduct holds.sound holds.stands spins
    exact ⟨tracks, setsUp, follows.sound, follows.stands⟩
  · exact ⟨tracks, setsUp, onward.sound, holds.stands.onward onward spot⟩

/-- **Every log of a session is kept**, from its start on. -/
theorem Holds.reaches (holds : m.Holds experiment store d₀) (separates : experiment.Separates d₀.here)
    (reaches : m.Reaches m') : m'.Holds experiment store d₀ := by
  induction reaches with
  | refl => exact holds
  | tail _ step ih => exact ih.step separates step

end Moment

end TaskTiming
