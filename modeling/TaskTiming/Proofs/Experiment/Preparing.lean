import TaskTiming.Proofs.Experiment.Moments
import TaskTiming.Proofs.Task.LogKeeping

/-!
# What setting up relies on

How a task is prepared depends on the experiment, the store and the common start alone, and which task is next
on how many were started. Nobody's step changes any of that, but for the conductor's who starts a task
(`Session.Alike`).
-/

namespace TaskTiming
set_option autoImplicit false

/-- A task that was prepared is made once its header is on the disk. -/
theorem ReadyTask.made_of_prepared {p : TaskParams} {t0 : Time} {path : Path} {d : Disk} {task : ReadyTask}
    (prepared : prepare p t0 path = .ok task) (file : d.read task.path = .ok (.ok task.log.bytes)) :
    ∃ header, task.Made p t0 path header d := by
  obtain ⟨-, -, ring, header, hasRing, encoded, rfl⟩ := prepare_eq_ok_iff.1 prepared
  exact ⟨header, rfl, rfl, encoded, rfl, ring_of_ringOf hasRing, file⟩

theorem Event.on_create {d d' : Disk} {path : Path} {bytes : List UInt8} {outcome : Result Unit} :
    Event.On d (.answer (.create path bytes) outcome) d' ↔
      outcome = (d.createWith path bytes).1.mapError .io ∧ d' = (d.createWith path bytes).2 := Iff.rfl

theorem Event.on_createDirectories {d d' : Disk} {path : Path} {outcome : Result Unit} :
    Event.On d (.answer (.createDirectories path) outcome) d' ↔
      outcome = (d.createDirectories path).1.mapError .io ∧ d' = (d.createDirectories path).2 := Iff.rfl

theorem StopCall.quiet_stopTurn (l : LiveTask) (call : StopCall) : (l.stopTurn call).IsQuiet := by
  unfold Live.stopTurn StopCall.next
  cases call.spot with
  | pausing _ | complaining _ => exact fun _ => rfl
  | _ => trivial

namespace Experiment

/-- Where the log of a task lies, seen from a working directory. -/
def logPlace (e : Experiment) (here : Place) (t : ExperimentTask) : Place := (t.logPath e.logDir).place here

/-- The logs of the tasks lie in different places. -/
def Separates (e : Experiment) (here : Place) : Prop :=
  ∀ ⦃i j : Nat⦄ ⦃t u⦄, e.tasks[i]? = some t → e.tasks[j]? = some u → i ≠ j →
    e.logPlace here t ≠ e.logPlace here u

end Experiment

namespace Session

variable {s s' s'' : Session} {i : Nat}

/-- The parameters with which a task is prepared. -/
def paramsOf (s : Session) (t : ExperimentTask) : TaskParams :=
  (s.fillOverheads t.params (s.experiment.taskCpu t)).1

/-- A task with a calibrated CPU is prepared, or refused, with its parameters and the common start. -/
theorem prepare_of_calibrated {t : ExperimentTask} {calibration : Calibration}
    (calibrated : (s.store.cpu? (s.experiment.taskCpu t)).bind (·.busyloop) = some calibration) :
    (s.prepare t).2 =
      ReadyTask.prepareBusy (s.paramsOf t) s.t0 calibration (t.logPath s.experiment.logDir) := by
  rw [prepare, calibrated]
  rfl

theorem prepare_of_uncalibrated {t : ExperimentTask}
    (uncalibrated : (s.store.cpu? (s.experiment.taskCpu t)).bind (·.busyloop) = none) :
    (s.prepare t).2 = .error (.argument (.notCalibrated (s.experiment.taskCpu t).toNat)) := by
  rw [prepare, uncalibrated]

theorem prepared_of_prepare {t : ExperimentTask} {task : ReadyTask} {job : Calibration}
    (prepared : (s.prepare t).2 = .ok (task, job)) :
    ReadyTask.prepare (s.paramsOf t) s.t0 (t.logPath s.experiment.logDir) = .ok task := by
  cases calibrated : (s.store.cpu? (s.experiment.taskCpu t)).bind (·.busyloop) with
  | none =>
    rw [prepare_of_uncalibrated calibrated] at prepared
    cases prepared
  | some calibration =>
    rw [prepare_of_calibrated calibrated] at prepared
    exact (ReadyTask.prepareBusy_eq_ok_iff.1 prepared).2

/-- Nothing differs that bears on how tasks are set up, nor are there more of them. -/
structure Alike (s s' : Session) : Prop where
  host : s'.host = s.host
  experiment : s'.experiment = s.experiment
  store : s'.store = s.store
  t0 : s'.t0 = s.t0
  count : s'.tasks.length = s.tasks.length
  handles : s'.handles = s.handles
  released : s'.generators.map (·.task) = s.generators.map (·.task)

theorem Alike.trans (first : s.Alike s') (second : s'.Alike s'') : s.Alike s'' where
  host := second.host.trans first.host
  experiment := second.experiment.trans first.experiment
  store := second.store.trans first.store
  t0 := second.t0.trans first.t0
  count := second.count.trans first.count
  handles := second.handles.trans first.handles
  released := second.released.trans first.released

theorem Alike.paramsOf (alike : s.Alike s') (t : ExperimentTask) : s'.paramsOf t = s.paramsOf t := by
  simp only [Session.paramsOf, fillOverheads, alike.experiment, alike.store]

theorem Alike.prepare (alike : s.Alike s') (t : ExperimentTask) : s'.prepare t = s.prepare t := by
  simp only [Session.prepare, fillOverheads, alike.host, alike.experiment, alike.store, alike.t0]

/-- The threads of the tasks are where they were. -/
def SameThreads (s s' : Session) : Prop :=
  ∀ i : Nat, (s'.tasks[i]?).map (·.live.machine) = (s.tasks[i]?).map (·.live.machine)

theorem alike_setLive (s : Session) (i : Nat) (live : LiveTask) : s.Alike (s.setLive i live) :=
  ⟨rfl, rfl, rfl, rfl, List.length_modify _ _ _, rfl, rfl⟩

theorem alike_setGenerator {g g' : Generator} (here : s.generators[i]? = some g) (same : g'.task = g.task) :
    s.Alike (s.setGenerator i g') := by
  refine ⟨rfl, rfl, rfl, rfl, rfl, rfl, ?_⟩
  obtain ⟨lt, rfl⟩ := List.getElem?_eq_some_iff.1 here
  show (s.generators.set i g').map _ = _
  rw [List.map_set, same]
  apply List.ext_getElem?
  intro j
  rw [List.getElem?_set]
  split
  · rename_i here
    subst here
    simp [lt]
  · rfl

theorem sameThreads_setLive {started : Started} {live : LiveTask} (here : s.tasks[i]? = some started)
    (same : live.machine = started.live.machine) : s.SameThreads (s.setLive i live) := by
  intro j
  rw [setLive, List.getElem?_modify]
  by_cases at' : i = j
  · subst at'
    simp [here, same]
  · simp [at']

theorem quiet_generatorTurn (s : Session) (i : Nat) : (s.generatorTurn i).IsQuiet := by
  unfold generatorTurn
  split
  · trivial
  · split
    · trivial
    · exact fun _ => rfl
    · split <;> trivial
    · exact fun _ => rfl
    · trivial

/-- A generator goes on and releases its task, and nothing else. -/
theorem alike_generatorTurn {d d' : Disk} (spins : (s.generatorTurn i).SpinsOn d s' d') :
    d' = d ∧ s.Alike s' ∧ s.SameThreads s' ∧ s'.spot = s.spot := by
  refine ⟨spins.disk_eq (s.quiet_generatorTurn i), ?_⟩
  cases generates_of_spins spins.spins with
  | looked here =>
    refine ⟨alike_setGenerator here ?_, fun _ => rfl, rfl⟩
    unfold Generator.looked
    split
    · split <;> rfl
    · rfl
  | slept here =>
    refine ⟨alike_setGenerator here ?_, fun _ => rfl, rfl⟩
    unfold Generator.slept
    split <;> rfl
  | complained here => exact ⟨alike_setGenerator here rfl, fun _ => rfl, rfl⟩
  | @signalled g t here spot there =>
    have first := s.alike_setLive g.task t.live.release.2
    refine ⟨first.trans (alike_setGenerator here ?_), ?_, rfl⟩
    · unfold Generator.signalled
      split <;> rfl
    · exact sameThreads_setLive there rfl

/-! Where the conductor goes, nobody else is touched. -/

theorem alike_goto (s : Session) (spot : Spot) : s.Alike (s.goto spot) := ⟨rfl, rfl, rfl, rfl, rfl, rfl, rfl⟩

theorem Proceeds.alike (proceeds : s.Proceeds s') : s.Alike s' ∧ s.SameThreads s' := by
  obtain ⟨host, experiment, store, t0, tasks, generators, handles, -, -⟩ := proceeds
  refine ⟨⟨host, experiment, store, t0, by rw [tasks], handles, by rw [generators]⟩, fun i => ?_⟩
  rw [tasks]

/-- In stopping and joining the tasks he goes on by himself, but for the calls that stop them. -/
theorem Conducts.alike_of_ending (conducts : s.Conducts s') (here : s.spot.isEnding = true) :
    s.Alike s' ∧ s.SameThreads s' := by
  cases conducts with
  | dropped =>
    obtain ⟨alike, threads⟩ := (proceeds_stopFrom { s with running := false } 0).alike
    exact ⟨⟨alike.host, alike.experiment, alike.store, alike.t0, alike.count, alike.handles, alike.released⟩, threads⟩
  | stopped => exact (s.proceeds_stopped _).alike
  | @stops i call call' started live at' there turn =>
    obtain ⟨_, part⟩ := Live.stopped_of_leads turn.leads
    exact ⟨(s.alike_setLive i live).trans (alike_goto _ _), sameThreads_setLive (tasks_of_held there) part.machine⟩
  | @joined i _ firstError =>
    obtain ⟨alike, threads⟩ := (proceeds_joined { s with firstError } i).alike
    exact ⟨⟨alike.host, alike.experiment, alike.store, alike.t0, alike.count, alike.handles, alike.released⟩, threads⟩
  | joinedAll | joinedGenerator | returned => exact ⟨s.alike_goto _, fun _ => rfl⟩
  | polled at' => cases here.symm.trans (Spot.not_isEnding (.inr at'))
  | unbegun at' => cases here.symm.trans (Spot.not_isEnding (.inl at'))
  | entered at' | began at' | passed at' | prepared at' | noted at' | accepted at' | refused at' | created at'
  | uncreated at' | started at' | unstarted at' | generates at' | ungenerated at' | nobody at' | clockless at' =>
    rw [at'] at here
    cases here

/-- The conductor asks something of the disk only for the directory and for the log of a task. -/
theorem quiet_conduct (entered : s.spot ≠ .directory) (creates : ∀ i task job, s.spot ≠ .creating i task job) :
    s.conduct.IsQuiet := by
  have starting (i : Nat) (task : ReadyTask) (job : Calibration) : (s.startTask i task job).IsQuiet := by
    unfold startTask
    split
    · trivial
    · rw [Turn.isQuiet_map]
      unfold ReadyTask.spawn
      split
      · trivial
      · exact fun _ => rfl
  have generating (i : Nat) (interval : Time) : (s.startGenerator i interval).IsQuiet := by
    unfold startGenerator
    split
    · trivial
    · exact fun _ => rfl
  have joining (i : Nat) (thread : Thread) (fate : ThreadEnd) : (s.joinTurn i thread fate).IsQuiet := by
    unfold joinTurn
    repeat' split
    all_goals first
      | trivial
      | exact fun _ => rfl
  unfold conduct
  cases here : s.spot with
  | directory => exact (entered here).elim
  | creating i task job => exact (creates i task job here).elim
  | noting i lines outcome =>
    cases lines with
    | cons line lines => exact fun _ => rfl
    | nil => cases outcome <;> trivial
  | starting i task job => exact starting i task job
  | generating i interval => exact generating i interval
  | resting => exact fun _ => rfl
  | stopping i call =>
    dsimp only
    split
    · trivial
    · split
      · trivial
      · exact Turn.isQuiet_map.2 (StopCall.quiet_stopTurn _ _)
  | joining i =>
    dsimp only
    split
    · trivial
    · split
      · trivial
      · exact joining _ _ _
  | preparing i | pollingState i | joiningGenerator i =>
    dsimp only
    repeat' split
    all_goals trivial
  | _ => trivial

end Session

end TaskTiming
