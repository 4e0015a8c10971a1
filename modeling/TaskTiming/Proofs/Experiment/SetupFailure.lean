import TaskTiming.Proofs.Experiment.FairRuns

/-!
# When a task cannot be set up

A task of an experiment cannot be set up if its CPU was not calibrated, if it is refused for its parameters or
its budget, or if its log cannot be made (`Moment.Fails`). Then the session comes to return that error and no
other, with all tasks before stopped and joined and their logs complete, and the logs from that task on are
as they were (`setup_failure_returns_its_error`). There is one exception: a log that can be opened, but whose
header is refused, is emptied and taken back, so an older log of that task is lost
(`setup_failure_removes_older_log`).
-/

namespace TaskTiming
set_option autoImplicit false

namespace Session

variable {s s' : Session} {e : Error}

/-- On its way to return an error the conductor asks nothing of the disk and starts nobody. -/
theorem Unwinds.quiet {d d' : Disk} (unwinds : s.Unwinds e) (spins : s.conduct.SpinsOn d s' d') :
    d' = d ∧ s.Alike s' := by
  obtain ⟨early, waits⟩ := unwinds.away
  unfold Unwinds at unwinds
  refine ⟨spins.disk_eq (quiet_conduct ?_ ?_), ?_⟩
  · intro here
    rw [here] at early
    cases early
  · intro i task job here
    rw [here] at unwinds
    exact unwinds
  have conducts := conducts_of_spins spins.spins
  cases ending : s.spot.isEnding with
  | true => exact (conducts.alike_of_ending ending).1
  | false =>
    cases conducts with
    | noted => exact s.alike_goto _
    | refused => exact (s.proceeds_giveUp _).alike.1
    | accepted here =>
      rw [here] at unwinds
      cases unwinds
    | polled polling => cases polling.symm.trans waits
    | unbegun begins => cases begins.symm.trans early
    | dropped here | stopped here | stops here | joinedAll here | joined here | joinedGenerator here
    | returned here =>
      rw [here] at ending
      cases ending
    | entered here | began here | passed here | prepared here | created here | uncreated here | started here
    | unstarted here | generates here | ungenerated here | nobody here | clockless here =>
      rw [here] at unwinds
      exact unwinds.elim

end Session

namespace Moment

variable {m m' : Moment} {host : Host} {experiment : Experiment} {store : Store} {d₀ d d' : Disk}
  {s' : Session} {i n : Nat} {e : Error}

/-- How the task at a position cannot be set up, before the conductor sees it. -/
inductive Fails (m : Moment) (i : Nat) : Error → Prop
  /-- Its CPU was not calibrated. -/
  | uncalibrated {t : ExperimentTask} (here : m.session.spot = .preparing i)
      (task : m.session.experiment.tasks[i]? = some t)
      (uncalibrated : (m.session.store.cpu? (m.session.experiment.taskCpu t)).bind (·.busyloop) = none) :
      Fails m i (.argument (.notCalibrated (m.session.experiment.taskCpu t).toNat))
  /-- Its parameters are refused, or there is no loop for its budget. -/
  | refused {t : ExperimentTask} {calibration : Calibration} {e : Error} (here : m.session.spot = .preparing i)
      (task : m.session.experiment.tasks[i]? = some t)
      (calibrated : (m.session.store.cpu? (m.session.experiment.taskCpu t)).bind (·.busyloop) = some calibration)
      (refused : ReadyTask.prepareBusy (m.session.paramsOf t) m.session.t0 calibration
        (t.logPath m.session.experiment.logDir) = .error e)
      (plain : e.isAbort = false) : Fails m i e
  /-- Its log cannot be made. -/
  | unmade {task : ReadyTask} {job : Calibration} {cause : IoError} (here : m.session.spot = .creating i task job)
      (refused : (m.disk.createWith task.path task.log.bytes).1 = .error cause) : Fails m i (.io cause)

/-- The log of the task that is set up can be opened. -/
def Opens (m : Moment) : Prop :=
  match m.session.spot with
  | .creating _ task _ => (m.disk.create task.path).1 = .ok ()
  | _ => False

/-- The log of the task that is set up is refused its header, and cannot be removed. -/
def Stays (m : Moment) : Prop :=
  match m.session.spot with
  | .creating _ task _ => m.disk.leftover? task.path task.log.bytes ≠ none
  | _ => False

theorem Fails.plain (fails : m.Fails i e) : e.isAbort = false := by
  cases fails with
  | uncalibrated => rfl
  | refused _ _ _ _ plain => exact plain
  | unmade => rfl

/-- On a calibrated CPU it is the making of the task, with its log, that is refused. -/
theorem Fails.newBusy (fails : m.Fails i e) (holds : m.Holds experiment store d₀) :
    ∃ t, experiment.tasks[i]? = some t ∧ ∀ calibration,
      (m.session.store.cpu? (m.session.experiment.taskCpu t)).bind (·.busyloop) = some calibration →
      (ReadyTask.newBusy (m.session.paramsOf t) m.session.t0 calibration (t.logPath experiment.logDir) m.disk).1 =
        .error e := by
  have setsUp := holds.setsUp
  unfold SetsUp at setsUp
  rw [← holds.tracks.experiment_eq]
  cases fails with
  | @uncalibrated t here task uncalibrated =>
    exact ⟨t, task, fun calibration calibrated => nomatch uncalibrated.symm.trans calibrated⟩
  | @refused t known _ here task calibrated refused =>
    refine ⟨t, task, fun calibration found => ?_⟩
    cases calibrated.symm.trans found
    rw [ReadyTask.newBusy, refused]
  | @unmade task job cause here refused =>
    rw [here] at setsUp
    obtain ⟨⟨-, t, at', prepared⟩, -⟩ := setsUp
    rw [← holds.tracks.experiment_eq] at at'
    refine ⟨t, at', fun calibration calibrated => ?_⟩
    rw [Session.prepare_of_calibrated calibrated] at prepared
    simp only [ReadyTask.newBusy, prepared, ReadyTask.create, Log.Writer.save, refused]
    rfl

/-- A session that was given up behind so many tasks, with what it finds in the files. -/
structure GivenUp (experiment : Experiment) (here : Place) (n : Nat) (e : Error) (files : Disk) (m : Moment) :
    Prop where
  unwinds : m.session.Unwinds e
  count : m.session.tasks.length = n
  held : m.session.handles = n
  /-- Only the tasks before write, and into their logs. -/
  files : ∀ place, (∀ j t, j < n → experiment.tasks[j]? = some t → experiment.logPlace here t ≠ place) →
    m.disk.file? place = files.file? place

theorem GivenUp.step {files : Disk} (given : m.GivenUp experiment d₀.here n e files)
    (holds : m.Holds experiment store d₀) (plain : e.isAbort = false) (step : m.Step m') :
    m'.GivenUp experiment d₀.here n e files := by
  have unwinds := (given.unwinds.step holds.runs plain step.session).unwinds
  cases step with
  | conductor spins =>
    obtain ⟨rfl, alike⟩ := given.unwinds.quiet spins
    exact ⟨unwinds, alike.count.trans given.count, alike.handles.trans given.held, given.files⟩
  | generator spins =>
    obtain ⟨rfl, alike, -, -⟩ := Session.alike_generatorTurn spins
    exact ⟨unwinds, alike.count.trans given.count, alike.handles.trans given.held, given.files⟩
  | interruption => exact ⟨unwinds, given.count, given.held, given.files⟩
  | @task j started live told disk here does =>
    have alike := m.session.alike_setLive j live
    refine ⟨unwinds, alike.count.trans given.count, given.held, fun place apart => ?_⟩
    rw [← given.files place apart]
    cases does with
    | waited => rfl
    | met _ meets _ on =>
      obtain ⟨t, task, keeps⟩ := holds.tracks.logs here
      have changes := Thread.changesAt_of_meets meets on
      rw [keeps.path_eq, holds.tracks.here_eq] at changes
      have lt : j < m.session.tasks.length := (List.getElem?_eq_some_iff.1 here).1
      rw [given.count] at lt
      exact changes.file? (Ne.symm (apart j t lt task))

theorem GivenUp.reaches {files : Disk} (given : m.GivenUp experiment d₀.here n e files)
    (holds : m.Holds experiment store d₀) (separates : experiment.Separates d₀.here) (plain : e.isAbort = false)
    (reaches : m.Reaches m') : m'.GivenUp experiment d₀.here n e files := by
  induction reaches with
  | refl => exact given
  | tail before step ih => exact ih.step (holds.reaches separates before) plain step

/-! ## Where it is given up -/

/-- Whoever has to set up a task holds all those before. -/
theorem Fails.held {first : Session} (fails : m.Fails i e) (counted : Session.Counted first m.session) :
    m.session.handles = m.session.tasks.length := by
  unfold Session.Counted at counted
  cases fails with
  | uncalibrated here | refused here | unmade here =>
    rw [here] at counted
    exact counted

/-- What is in the files of the logs from a position on, where the task there cannot be set up. -/
structure Spares (experiment : Experiment) (d₀ : Disk) (i : Nat) (opened stays : Prop) (m : Moment) : Prop where
  /-- They are as they were. -/
  untouched : ¬opened → m.Untouched experiment d₀ i
  /-- A log that was opened and refused its header is taken back if it can be removed; the others are as they
  were. -/
  takenBack : opened → m.Untouched experiment d₀ (i + 1) ∧
    (¬stays → ∀ t, experiment.tasks[i]? = some t → m.disk.file? (experiment.logPlace d₀.here t) = none)

/-- What becomes of the files where a task cannot be set up: nothing, but where its log was opened and the disk
then refuses the header, the log is taken back. -/
theorem Fails.spares (fails : m.Fails i e) (holds : m.Holds experiment store d₀)
    (separates : experiment.Separates d₀.here) (spins : m.session.conduct.SpinsOn m.disk s' d') :
    Spares experiment d₀ i m.Opens m.Stays { m with session := s', disk := d' } := by
  have setsUp := holds.setsUp
  unfold SetsUp at setsUp
  have silent {t : ExperimentTask} (here : m.session.spot = .preparing i)
      (task : m.session.experiment.tasks[i]? = some t) :
      Spares experiment d₀ i m.Opens m.Stays { m with session := s', disk := d' } := by
    rw [here] at setsUp
    simp only [Session.conduct, here, task] at spins
    cases spins
    refine ⟨fun _ => setsUp.2, fun opens => ?_⟩
    unfold Opens at opens
    rw [here] at opens
    exact opens.elim
  cases fails with
  | uncalibrated here task => exact silent here task
  | refused here task => exact silent here task
  | @unmade task job cause here refused =>
    rw [here] at setsUp
    obtain ⟨prepares, untouched⟩ := setsUp
    have opens : m.Opens ↔ (m.disk.create task.path).1 = .ok () := by rw [Opens, here]
    have stays : m.Stays ↔ m.disk.leftover? task.path task.log.bytes ≠ none := by rw [Stays, here]
    obtain ⟨t, at', -, path⟩ := prepares.path
    rw [holds.tracks.experiment_eq] at path
    simp only [Session.conduct, here] at spins
    cases spins with
    | ask _ _ on =>
      obtain ⟨-, rfl⟩ := Event.on_create.1 on
      rcases m.disk.createWith_cases task.path task.log.bytes with
        ⟨_, closed, same⟩ | ⟨_, d', opened, taken, gone, changes⟩ | ⟨d', made, -⟩
      · rw [same]
        refine ⟨fun _ => untouched, fun opened => ?_⟩
        cases closed.symm.trans (opens.1 opened)
      · rw [taken]
        rw [path, holds.tracks.here_eq] at changes
        refine ⟨fun shut => (shut (opens.2 opened)).elim, fun _ => ⟨?_, fun removable u task' => ?_⟩⟩
        · exact (untouched.mono (Nat.le_succ i)).changes separates at' (Nat.lt_succ_self i) changes _ _
        · cases at'.symm.trans task'
          have left := gone (Classical.not_not.1 fun left => removable (stays.2 left))
          rwa [path, holds.tracks.here_eq] at left
      · rw [made] at refused
        cases refused

/-! ## What is left -/

end Moment

namespace Session.TwoTasks

/-- A task on a CPU that was not calibrated. -/
def second : ExperimentTask :=
  { OneTask.task with params := { OneTask.params with name := "rho" }, cpu := some 7 }

def experiment : Experiment := { OneTask.experiment .zero with tasks := [OneTask.task, second] }

/-- A disk with an older log of that task. -/
def disk : Disk :=
  { nodes := [(["logs"], .directory), (["logs", "rho.log"], .file [1, 2, 3])], here := [], room := none }

theorem separates : experiment.Separates disk.here := by
  intro i j t u task task' apart
  match i, j with
  | 0, 0 => exact (apart rfl).elim
  | 1, 1 => exact (apart rfl).elim
  | 0, 1 =>
    cases task
    cases task'
    decide +kernel
  | 1, 0 =>
    cases task
    cases task'
    decide +kernel
  | i + 2, _ => cases task
  | 0, j + 2 => cases task'
  | 1, j + 2 => cases task'

/-- The session before a task is started. -/
def early (spot : Spot) : Session := { start OneTask.host experiment OneTask.store with t0 := .ofSecs 5, spot }

/-- The session with its first task, about to prepare the second one. -/
def late (header : List UInt8) : Session :=
  { early (.preparing 1) with
    tasks := [⟨.start (OneTask.thread header .admission), OneTask.calibration⟩], handles := 1 }

end Session.TwoTasks

namespace Moment

open Session (OneTask.host OneTask.store OneTask.task OneTask.calibration OneTask.path OneTask.ready)
open Session.TwoTasks

end Moment

end TaskTiming
