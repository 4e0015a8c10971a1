import Mathlib.Data.List.Induction
import TaskTiming.Experiment

/-!
# Well-formed experiments

An experiment is checked in one pass that looks each task up among those in front of it. What the pass finds
is said here without it: the tasks that were accepted so far are apart from each other and have their timing
(`Experiment.Sound`), and a task that is refused has a fault against these or in itself
(`ExperimentTask.Faulty`). Any list of tasks is sound, or it has a first task with a fault behind sound ones
(`Experiment.sound_or_faulty`), so the two answers leave nothing open (`Experiment.validate_iff`).
-/

namespace TaskTiming
set_option autoImplicit false

/-- A check that is passed in one of two cases and fails in the other one tells them apart. -/
theorem Result.iff_of_cases {r : Result Unit} {Good : Prop} {Bad : Error → Prop} (good : Good → r = .ok ())
    (bad : ∀ e, Bad e → r = .error e) (either : Good ∨ ∃ e, Bad e) :
    (r = .ok () ↔ Good) ∧ ∀ e, r = .error e ↔ Bad e := by
  rcases either with fine | ⟨fault, faulty⟩
  · rw [good fine]
    refine ⟨⟨fun _ => fine, fun _ => rfl⟩, fun e => ⟨fun refused => by simp at refused, fun faulty => ?_⟩⟩
    rw [← good fine, bad e faulty]
  · rw [bad fault faulty]
    refine ⟨⟨fun passed => by simp at passed, fun fine => ?_⟩, fun e => ⟨?_, fun other => ?_⟩⟩
    · rw [← bad fault faulty, good fine]
    · rintro same
      cases same
      exact faulty
    · rw [← bad fault faulty, bad e other]

namespace ExperimentTask

/-- What releases the jobs is given: an interval between generated releases, or a period. -/
structure Timed (t : ExperimentTask) : Prop where
  aperiodic : t.params.release = .aperiodic →
    ∃ interval, t.releaseInterval = some interval ∧ 0 < interval.toNanos
  periodic : t.params.release = .periodic → 0 < t.params.period.toNanos

/-- The timing of a task lacks something. -/
inductive Untimed (t : ExperimentTask) : Error → Prop
  | noInterval (kind : t.params.release = .aperiodic) (none : t.releaseInterval = none) :
      Untimed t (.argument (.noInterval t.params.name))
  | intervalZero {interval : Time} (kind : t.params.release = .aperiodic)
      (given : t.releaseInterval = some interval) (zero : interval.toNanos = 0) :
      Untimed t (.argument (.intervalZero t.params.name))
  | periodZero (kind : t.params.release = .periodic) (zero : t.params.period.toNanos = 0) :
      Untimed t (.argument (.periodZero t.params.name))

/-- No task in front has the same name. -/
def HasNewName (before : List ExperimentTask) (t : ExperimentTask) : Prop :=
  ∀ u ∈ before, u.params.name ≠ t.params.name

/-- No task in front has its log at the same path. -/
def HasNewLog (logDir : Path) (before : List ExperimentTask) (t : ExperimentTask) : Prop :=
  ∀ u ∈ before, (u.logPath logDir).parts ≠ (t.logPath logDir).parts

/-- A task can stand behind others. -/
structure Fits (logDir : Path) (before : List ExperimentTask) (t : ExperimentTask) : Prop where
  name : t.HasNewName before
  log : t.HasNewLog logDir before
  timed : t.Timed

/-- What is wrong with a task behind others: its name, or else its log, or else its timing. -/
inductive Faulty (logDir : Path) (before : List ExperimentTask) (t : ExperimentTask) : Error → Prop
  | name {u : ExperimentTask} (earlier : u ∈ before) (same : u.params.name = t.params.name) :
      Faulty logDir before t (.argument (.duplicateTask t.params.name))
  | log (name : t.HasNewName before) {u : ExperimentTask} (earlier : u ∈ before)
      (same : (u.logPath logDir).parts = (t.logPath logDir).parts) :
      Faulty logDir before t (.argument (.sharedLog t.params.name))
  | timing (name : t.HasNewName before) (log : t.HasNewLog logDir before) {e : Error}
      (untimed : t.Untimed e) : Faulty logDir before t e

variable {logDir : Path} {before : List ExperimentTask} {t : ExperimentTask} {e : Error}

theorem Timed.checkTiming (timed : t.Timed) : t.checkTiming = .ok () := by
  cases kind : t.params.release with
  | aperiodic =>
    obtain ⟨interval, given, pos⟩ := timed.aperiodic kind
    simp [ExperimentTask.checkTiming, kind, given, Time.isZero_iff_toNanos, Nat.ne_of_gt pos]
  | periodic =>
    have pos := timed.periodic kind
    simp [ExperimentTask.checkTiming, kind, Time.isZero_iff_toNanos, Nat.ne_of_gt pos]

theorem Untimed.checkTiming (untimed : t.Untimed e) : t.checkTiming = .error e := by
  cases untimed with
  | noInterval kind none => simp [ExperimentTask.checkTiming, kind, none]
  | intervalZero kind given zero =>
    simp [ExperimentTask.checkTiming, kind, given, Time.isZero_iff_toNanos, zero]
  | periodZero kind zero => simp [ExperimentTask.checkTiming, kind, Time.isZero_iff_toNanos, zero]

theorem timed_or_untimed (t : ExperimentTask) : t.Timed ∨ ∃ e, t.Untimed e := by
  cases kind : t.params.release with
  | aperiodic =>
    cases given : t.releaseInterval with
    | none => exact .inr ⟨_, .noInterval kind given⟩
    | some interval =>
      rcases Nat.eq_zero_or_pos interval.toNanos with zero | pos
      · exact .inr ⟨_, .intervalZero kind given zero⟩
      · exact .inl ⟨fun _ => ⟨interval, given, pos⟩, by simp [kind]⟩
  | periodic =>
    rcases Nat.eq_zero_or_pos t.params.period.toNanos with zero | pos
    · exact .inr ⟨_, .periodZero kind zero⟩
    · exact .inl ⟨by simp [kind], fun _ => pos⟩

theorem any_name_iff : (before.any fun u => u.params.name = t.params.name) = true ↔ ¬t.HasNewName before := by
  simp [HasNewName]

theorem any_log_iff :
    (before.any fun u => (u.logPath logDir).same (t.logPath logDir)) = true ↔ ¬t.HasNewLog logDir before := by
  simp [HasNewLog, Path.same]

/-- With a name and a log of its own, a task is judged by its timing. -/
theorem check_of_new (name : t.HasNewName before) (log : t.HasNewLog logDir before) :
    t.check logDir before = t.checkTiming := by
  rw [check, if_neg (fun taken => any_name_iff.1 taken name), if_neg (fun taken => any_log_iff.1 taken log)]

theorem Fits.check (fits : t.Fits logDir before) : t.check logDir before = .ok () := by
  rw [check_of_new fits.name fits.log, fits.timed.checkTiming]

theorem Faulty.check (faulty : t.Faulty logDir before e) : t.check logDir before = .error e := by
  cases faulty with
  | name earlier same =>
    have taken := any_name_iff.2 fun new => new _ earlier same
    rw [ExperimentTask.check, if_pos taken]
  | log name earlier same =>
    have taken := any_log_iff.2 fun new => new _ earlier same
    rw [ExperimentTask.check, if_neg (fun named => any_name_iff.1 named name), if_pos taken]
  | timing name log untimed => rw [check_of_new name log, untimed.checkTiming]

theorem fits_or_faulty (logDir : Path) (before : List ExperimentTask) (t : ExperimentTask) :
    t.Fits logDir before ∨ ∃ e, t.Faulty logDir before e := by
  by_cases name : t.HasNewName before
  · by_cases log : t.HasNewLog logDir before
    · rcases t.timed_or_untimed with timed | ⟨e, untimed⟩
      · exact .inl ⟨name, log, timed⟩
      · exact .inr ⟨e, .timing name log untimed⟩
    · simp only [HasNewLog, not_forall, not_not] at log
      obtain ⟨u, earlier, same⟩ := log
      exact .inr ⟨_, .log name earlier same⟩
  · simp only [HasNewName, not_forall, not_not] at name
    obtain ⟨u, earlier, same⟩ := name
    exact .inr ⟨_, .name earlier same⟩

end ExperimentTask

namespace Experiment

/-- Tasks that can run beside each other, with their logs in a common directory. -/
structure Sound (logDir : Path) (tasks : List ExperimentTask) : Prop where
  names : tasks.Pairwise fun t u => t.params.name ≠ u.params.name
  logs : tasks.Pairwise fun t u => (t.logPath logDir).parts ≠ (u.logPath logDir).parts
  timed : ∀ t ∈ tasks, t.Timed

/-- There is something to run, and it can run together. -/
structure WellFormed (e : Experiment) : Prop where
  some : e.tasks ≠ []
  sound : Sound e.logDir e.tasks

variable {logDir : Path} {before : List ExperimentTask} {t : ExperimentTask}

theorem sound_snoc : Sound logDir (before ++ [t]) ↔ Sound logDir before ∧ t.Fits logDir before := by
  constructor
  · rintro ⟨names, logs, timed⟩
    rw [List.pairwise_append] at names logs
    simp only [List.mem_append, List.mem_singleton] at names logs timed
    refine ⟨⟨names.1, logs.1, fun u mem => timed u (.inl mem)⟩, ?_⟩
    exact ⟨fun u mem => names.2.2 u mem t rfl, fun u mem => logs.2.2 u mem t rfl, timed t (.inr rfl)⟩
  · rintro ⟨⟨names, logs, timed⟩, fits⟩
    have name := fits.name
    have log := fits.log
    refine ⟨?_, ?_, ?_⟩
    · simpa [List.pairwise_append, names, ExperimentTask.HasNewName] using name
    · simpa [List.pairwise_append, logs, ExperimentTask.HasNewLog] using log
    · intro u mem
      rcases List.mem_append.1 mem with earlier | last
      · exact timed u earlier
      · rw [List.mem_singleton.1 last]
        exact fits.timed

theorem checkTasks_append (logDir : Path) (before more rest : List ExperimentTask) :
    checkTasks logDir before (more ++ rest) =
      checkTasks logDir before more >>= fun _ => checkTasks logDir (before ++ more) rest := by
  induction more generalizing before with
  | nil => simp [checkTasks, bind, Except.bind]
  | cons t more ih =>
    simp only [List.cons_append, checkTasks]
    rw [ih]
    cases t.check logDir before <;> simp [bind, Except.bind]

theorem Sound.checkTasks {tasks : List ExperimentTask} (sound : Sound logDir tasks) :
    checkTasks logDir [] tasks = .ok () := by
  induction tasks using List.reverseRecOn with
  | nil => rfl
  | append_singleton before t ih =>
    obtain ⟨sound, fits⟩ := sound_snoc.1 sound
    rw [checkTasks_append, ih sound]
    simp [Experiment.checkTasks, fits.check, bind, Except.bind]

/-- What is wrong with a task behind sound ones is reported, whatever comes after it. -/
theorem checkTasks_of_faulty {e : Error} (sound : Sound logDir before) (faulty : t.Faulty logDir before e)
    (after : List ExperimentTask) : checkTasks logDir [] (before ++ t :: after) = .error e := by
  rw [checkTasks_append, sound.checkTasks]
  simp [checkTasks, faulty.check, bind, Except.bind]

/-- Tasks are sound, or there is a first one that does not fit behind those in front of it. -/
theorem sound_or_faulty (logDir : Path) (tasks : List ExperimentTask) :
    Sound logDir tasks ∨ ∃ e before t after,
      tasks = before ++ t :: after ∧ Sound logDir before ∧ t.Faulty logDir before e := by
  induction tasks using List.reverseRecOn with
  | nil => exact .inl ⟨.nil, .nil, by simp⟩
  | append_singleton tasks t ih =>
    rcases ih with sound | ⟨e, before, u, after, rfl, sound, faulty⟩
    · rcases t.fits_or_faulty logDir tasks with fits | ⟨e, faulty⟩
      · exact .inl (sound_snoc.2 ⟨sound, fits⟩)
      · exact .inr ⟨e, tasks, t, [], rfl, sound, faulty⟩
    · exact .inr ⟨e, before, u, after ++ [t], by simp, sound, faulty⟩

/-- **Exactly the well-formed experiments are accepted.** An experiment without tasks is refused for that.
Otherwise the error is the one of the first task that does not fit behind those in front of it: these have
names and logs of their own and their timing, and the task has the name of one of them, or else the log of one
of them, or else lacks something in its timing. -/
theorem validate_iff (e : Experiment) :
    (e.validate = .ok () ↔ e.WellFormed) ∧
    ∀ error, e.validate = .error error ↔
      (e.tasks = [] ∧ error = .argument .noTasks) ∨
      ∃ before t after, e.tasks = before ++ t :: after ∧ Sound e.logDir before ∧
        t.Faulty e.logDir before error := by
  apply Result.iff_of_cases
  · rintro ⟨some, sound⟩
    rw [validate, if_neg (by simpa using some), sound.checkTasks]
  · rintro error (⟨none, rfl⟩ | ⟨before, t, after, split, sound, faulty⟩)
    · simp [validate, none]
    · rw [validate, split, checkTasks_of_faulty sound faulty]
      simp
  · by_cases some : e.tasks = []
    · exact .inr ⟨_, .inl ⟨some, rfl⟩⟩
    · rcases sound_or_faulty e.logDir e.tasks with sound | ⟨error, faulty⟩
      · exact .inl ⟨some, sound⟩
      · exact .inr ⟨error, .inr faulty⟩

/-- A name that is taken is reported before a log that is shared and before a period that is missing. -/
example :
    let task (log : Option Path) (period : Time) : ExperimentTask := {
      params := .periodic "a" (.ofSecs 1) period, cpu := none, priority := none, log, releaseInterval := none }
    let e : Experiment := {
      duration := none, cpu := 0, logDir := defaultLogDir, realtime := false, startDelay := defaultStartDelay
      tasks := [task (some ⟨"a.log"⟩) (.ofSecs 10), task none (.ofSecs 0)] }
    e.validate = .error (.argument (.duplicateTask "a")) := rfl

end Experiment

end TaskTiming
