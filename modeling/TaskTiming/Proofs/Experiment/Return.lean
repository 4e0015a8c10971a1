import TaskTiming.Proofs.Experiment.Held
import TaskTiming.Proofs.Task.MadeReady

/-!
# What a session leaves when it returns

A session that returns has stopped its tasks and waited for their threads and generators, be it that it is
over or that it could not be set up (`session_is_settled_unless_cut_short`). It has not where the instant
at which it should be over lies behind all times, for which it looks only when all its tasks run
(`session_returns_from_running_task`), and a task whose generator the system refuses runs on alone.
-/

namespace TaskTiming
set_option autoImplicit false

namespace Session

variable {s s' s'' : Session}

/-! ## Sessions from their start to their return -/

/-- At first nothing is started. -/
theorem joined_start (host : Host) (experiment : Experiment) (store : Store) :
    (start host experiment store).Joined where
  tasks _ mem := (List.not_mem_nil mem).elim
  generators _ mem := (List.not_mem_nil mem).elim

theorem sound_and_stands {host : Host} {experiment : Experiment} {store : Store}
    (reaches : (start host experiment store).Reaches s) : s.Sound ∧ s.Stands := by
  induction reaches with
  | refl => exact ⟨fun _ mem => (List.not_mem_nil mem).elim, joined_start host experiment store⟩
  | tail _ step ih =>
    obtain ⟨sound, stands⟩ := ih
    rcases step.conducted_or_onward sound with spins | ⟨onward, spot⟩
    · have follows := follows_of_conduct sound stands spins
      exact ⟨follows.sound, follows.stands⟩
    · exact ⟨onward.sound, stands.onward onward spot⟩

theorem counted_of_reaches {host : Host} {experiment : Experiment} {store : Store}
    (reaches : (start host experiment store).Reaches s) : Counted (start host experiment store) s := by
  induction reaches with
  | refl => exact Eq.refl 0
  | tail before step ih =>
    obtain ⟨sound, -⟩ := sound_and_stands before
    rcases step.conducted_or_onward sound with spins | ⟨onward, spot⟩
    · exact ih.conducts before spins
    · exact ih.onward step onward spot

theorem overlooks_of_reaches {host : Host} {experiment : Experiment} {store : Store}
    (reaches : (start host experiment store).Reaches s) : s.Overlooks := by
  induction reaches with
  | refl => exact fun _ _ _ here => nomatch here
  | tail before step ih => exact ih.step (sound_and_stands before).1 step

theorem spot_of_outcome {outcome : Result Unit} (returned : s.outcome? = some outcome) :
    s.spot = .returned outcome := by
  unfold outcome? at returned
  split at returned
  · cases returned
    assumption
  · cases returned

/-- Behind its return those whom a session holds stay joined. -/
theorem Joined.later {outcome : Result Unit} (joined : s.Joined) (sound : s.Sound)
    (returned : s.spot = .returned outcome) (later : s.Reaches s') :
    s'.Joined ∧ s'.spot = .returned outcome := by
  have all : s'.Sound ∧ s'.Joined ∧ s'.spot = .returned outcome := by
    induction later with
    | refl => exact ⟨sound, joined, returned⟩
    | tail _ step ih =>
      obtain ⟨sound, joined, returned⟩ := ih
      rcases step.conducted_or_onward sound with spins | ⟨onward, spot⟩
      · simp only [conduct, returned] at spins
        cases spins
      · exact ⟨onward.sound, joined.onward onward, spot.trans returned⟩
  exact all.2

/-- **A session that returns leaves nothing running**, whatever its tasks do and however the world answers,
unless it is cut short: then every thread it started was asked to stop and has ended with its log on the
disk, every generator has ended, and none of them begins again. Only where the system refuses the generator of a
task that was started is that one task left, which nobody asks to stop; the error is that of the refusal, and
all others have ended. -/
theorem session_is_settled_unless_cut_short {host : Host} {experiment : Experiment} {store : Store}
    {s s' s'' : Session} {outcome : Result Unit} (reaches : (start host experiment store).Reaches s)
    (spins : s.conduct.Spins s') (returns : s'.outcome? = some outcome) (later : s'.Reaches s'') :
    CutShort s s' outcome ∨ s''.Settled ∨
      ∃ e, outcome = .error e ∧ Loses (start host experiment store) s'' e ∧ s''.Joined ∧ s''.Overlooks := by
  obtain ⟨sound, stands⟩ := sound_and_stands reaches
  have follows := follows_of_conduct sound stands spins
  rcases follows.returns outcome returns with short | joined
  · exact .inl short
  obtain ⟨joined, returned⟩ := joined.later follows.sound (spot_of_outcome returns) later
  have after := (reaches.tail (.conductor spins)).trans later
  have counted := counted_of_reaches after
  unfold Counted at counted
  rw [returned] at counted
  rcases counted with all | ⟨e, said, loses⟩ | ⟨abort, said⟩
  · exact .inr (.inl (joined.settled all))
  · exact .inr (.inr ⟨e, said, loses, joined, overlooks_of_reaches after⟩)
  · subst said
    exact .inl (.aborted abort)

/-! ## A session with one task -/

/-- What is found in preparing a task is noted. -/
theorem conduct_of_preparing {i : Nat} {t : ExperimentTask} {lines : List LogLine}
    {outcome : Result (ReadyTask × Calibration)} (here : s.spot = .preparing i)
    (at' : s.experiment.tasks[i]? = some t) (found : s.prepare t = (lines, outcome)) :
    s.conduct = .go (s.goto (.noting i lines outcome)) := by
  simp only [conduct, here, at', found]

/-- A task that may be started runs once the system has a thread for it. -/
theorem conduct_of_starting {i : Nat} {t : ExperimentTask} {task : ReadyTask} {job : Calibration}
    (here : s.spot = .starting i task job) (at' : s.experiment.tasks[i]? = some t)
    (checked : task.checkStart (intervalOf t).isSome = .ok ()) :
    s.conduct = .ask (.startThread task.params.name) fun
      | .ok () => s.taskStarted i t task job
      | .error e => s.giveUp e := by
  simp only [conduct, here, startTask, at', ReadyTask.spawn, checked]
  rfl

/-- The common start lies behind what the clock says by the delay. -/
theorem spins_of_common {now t0 : Time} (here : s.spot = .common)
    (sum : now.add? s.experiment.startDelay = .ok t0) : s.conduct.Spins ({ s with t0 }.setUp 0) := by
  refine Turn.Spins.of_readClock (.ok now) (by rw [conduct, here]) ?_
  simp only [Except.bind, sum, Result.ofTime, here]

namespace OneTask

/-- A periodic task that keeps no samples. -/
def params : TaskParams :=
  { TaskParams.periodic "tau" (.ofMillis 1) (.ofMillis 2) with
    stats := { enabled := false, capacity := 0, policy := .overwrite } }

def task : ExperimentTask :=
  { params, cpu := none, priority := none, log := none, releaseInterval := none }

def experiment (duration : Time) : Experiment :=
  { duration := some duration, cpu := 0, logDir := ⟨"logs"⟩, realtime := true, startDelay := .zero
    tasks := [task] }

/-- The loop for a millisecond, which is all that a job of the task spends. -/
def calibration : Calibration :=
  { cpu := 0, frequency := none, iterations := 1000, target := .ofMillis 1, tolerance := .ofMicros 10 }

def store : Store := { cpus := [(0, { CpuRecord.blank with busyloop := some calibration })] }

def host : Host :=
  { allowed := .empty, privileged := false, frequency := fun _ => none, governor := fun _ => none }

def path : Path := task.logPath ⟨"logs"⟩

def ready (header : List UInt8) : ReadyTask :=
  { params, t0 := .ofSecs 5, ring := none, log := { bytes := header, samples := 0 }, path }

/-- The session before the task is started. -/
def early (duration : Time) (spot : Spot) : Session :=
  { start host (experiment duration) store with t0 := .ofSecs 5, spot }

theorem spins_common (duration : Time) :
    ((start host (experiment duration) store).goto .common).conduct.Spins (early duration (.preparing 0)) :=
  spins_of_common rfl (show (Time.ofSecs 5).add? .zero = .ok (.ofSecs 5) from rfl)

theorem prepareBusy_eq_ok :
    ∃ header, ReadyTask.prepareBusy params (.ofSecs 5) calibration path = .ok (ready header, calibration) := by
  have accepted : params.name.utf8ByteSize ≤ 4096 ∧ ∀ t ∈ [params.wcet, params.period, params.deadline, .ofSecs 5,
      params.offset, params.overheads.jobStats, params.overheads.finishToStart], t.sec.toNat < 2 ^ 32 := by decide
  obtain ⟨header, encoded⟩ := TaskParams.encode_header_iff.2 accepted
  refine ⟨header, ReadyTask.prepareBusy_eq_ok_iff.2 ⟨⟨.ofMillis 1, rfl, rfl⟩, ?_⟩⟩
  apply ReadyTask.prepare_eq_ok_iff.2
  exact ⟨rfl, ⟨_, rfl⟩, none, header, rfl, encoded, rfl⟩

theorem reaches_starting (duration : Time) : ∃ header,
    (start host (experiment duration) store).Reaches (early duration (.starting 0 (ready header) calibration)) := by
  obtain ⟨header, prepared⟩ := prepareBusy_eq_ok
  have noted : (early duration (.preparing 0)).prepare task =
      ([overheadsLine params 0], .ok (ready header, calibration)) := by
    rw [← prepared]
    rfl
  have noting : (early duration (.preparing 0)).conduct.Spins
      (early duration (.noting 0 [overheadsLine params 0] (.ok (ready header, calibration)))) := by
    rw [conduct_of_preparing rfl rfl noted]
    exact .go _
  refine ⟨header, ?_⟩
  refine .head (.conductor (.ask _ _ (.ok ()))) ?_
  refine .head (.conductor (spins_common duration)) ?_
  refine .head (.conductor noting) ?_
  refine .head (.conductor (.ask _ _ (.ok ()))) ?_
  refine .head (.conductor (.go _)) ?_
  refine .head (.conductor (.ask _ _ (.ok ()))) ?_
  exact .refl

def thread (header : List UInt8) (spot : Thread.Spot) : Thread :=
  { task := ready header, admission := .fifo 50 (some 0), spot }

def late (duration : Time) (spot : Spot) (live : LiveTask) : Session :=
  { early duration spot with tasks := [⟨live, calibration⟩], handles := 1 }

theorem checked (header : List UInt8) : (ready header).checkStart false = .ok () := by
  have plain : ¬params.name.toList.contains '\x00' = true := by decide
  have periodic : ¬(params.release = .aperiodic ∧ (!false) = true) := by decide
  exact (if_neg periodic).trans (if_neg plain)

/-- It has no releases of its own. -/
theorem alone : intervalOf task = none := if_neg (by decide)

theorem conduct_starting {s : Session} {header : List UInt8} (here : s.spot = .starting 0 (ready header) calibration)
    (first : s.experiment.tasks[0]? = some task) :
    s.conduct = .ask (.startThread "tau") fun
      | .ok () => s.taskStarted 0 task (ready header) calibration
      | .error e => s.giveUp e := by
  apply conduct_of_starting here first
  rw [alone]
  exact checked header

/-- The task is started, the last one there is. -/
theorem spins_starting (duration : Time) (header : List UInt8) :
    (early duration (.starting 0 (ready header) calibration)).conduct.Spins
      ((late duration (.starting 0 (ready header) calibration) (.start (thread header .admission))).setUp 1) := by
  have started : (early duration (.starting 0 (ready header) calibration)).conduct.Spins
      ((early duration (.starting 0 (ready header) calibration)).taskStarted 0 task (ready header) calibration) := by
    rw [conduct_starting rfl rfl]
    exact .ask _ _ (.ok ())
  rw [taskStarted, alone] at started
  exact started

/-- The session that is over at once, with its only task. -/
def stage (header : List UInt8) (spot : Spot) (running : Bool) (control : Control) (t : Thread.Spot) : Session :=
  { late .zero spot { Live.start (thread header t) with control } with running }

def refusal : Error := .privilege .notPermitted

def call (spot : StopCall.Spot) : StopCall := { name := "tau", release := .periodic, wcet := .ofMillis 1, spot }

def raised : Control := { Control.new with stopped := true }

def stopped : Control := raised.advance .stopped

def joined : Control := stopped.advance .joined

def report : Report :=
  { name := "tau", jobs := 0, totalWrites := 0, samplesWritten := 0, lost := 0, overrun := false, logPath := path }

theorem reaches_joining (header : List UInt8) :
    (stage header .polling true .new .admission).Reaches (stage header (.joining 0) false stopped .admission) := by
  refine .head (.conductor (.go _)) (?_ : Reaches (stage header .pollingClock true .new .admission) _)
  refine .head (.conductor (.readClock _ (.ok (.ofSecs 5))))
    (?_ : Reaches (stage header .dropping true .new .admission) _)
  refine .head (.conductor (.go _))
    (?_ : Reaches (stage header (.stopping 0 (call .raise)) false .new .admission) _)
  refine .head (.conductor (.go _))
    (?_ : Reaches (stage header (.stopping 0 (call .advance)) false raised .admission) _)
  refine .head (.conductor (.go _))
    (?_ : Reaches (stage header (.stopping 0 (call .returned)) false stopped .admission) _)
  exact .single (.conductor (.go _))

/-- The thread takes a step while it is waited for. -/
theorem step_task {header : List UInt8} {control control' : Control} {t : Thread.Spot} (u : Thread.Spot)
    (spins : (Live.turn Thread.next { Live.start (thread header t) with control }).Spins
      { Live.start (thread header u) with control := control' }) :
    (stage header (.joining 0) false control t).Step (stage header (.joining 0) false control' u) := by
  have here : (stage header (.joining 0) false control t).tasks[0]? =
      some ⟨{ Live.start (thread header t) with control }, calibration⟩ := rfl
  exact .task here (.turn spins)

theorem reaches_ended (header : List UInt8) :
    (stage header (.joining 0) false stopped .admission).Reaches
      (stage header (.joining 0) false { joined with finished := true } (.ended (.returned (.error refusal)))) := by
  refine .head (step_task (.leaving (.error refusal) .none) (.ask _ _ (.error refusal))) ?_
  refine .head (step_task (.complaining refusal .none) (.go _)) ?_
  refine .head (step_task (.writing (.error refusal) (.ok report) []) (.ask _ _ (.ok ()))) ?_
  refine .head (step_task (.closing (.error refusal) (.ok report)) (.ask _ _ (.ok ()))) ?_
  refine .head (step_task (.finishing (.returned (.error refusal))) (.go _)) ?_
  exact .single (step_task _ (.go _))

/-- The whole session, up to the last look for a generator. -/
theorem reaches_joiningGenerator : ∃ header, (start host (experiment .zero) store).Reaches
    { stage header (.joiningGenerator 0) false { joined with finished := true }
        (.ended (.returned (.error refusal))) with firstError := some refusal } := by
  obtain ⟨header, starting⟩ := reaches_starting .zero
  have started : (early .zero (.starting 0 (ready header) calibration)).conduct.Spins
      (stage header .polling true .new .admission) := spins_starting .zero header
  refine ⟨header, ((starting.tail (.conductor started)).trans (reaches_joining header)).trans ?_⟩
  exact (reaches_ended header).tail (.conductor (.ask _ _ (.ok ())))

end OneTask

/-- A task whose thread is refused its class is joined, and its error is what the session returns. -/
theorem session_is_settled_unless_cut_short_refused :
    ∃ s, (start OneTask.host (OneTask.experiment .zero) OneTask.store).Reaches s ∧
      s.outcome? = some (.error OneTask.refusal) ∧ s.tasks.length = 1 ∧ s.Settled := by
  obtain ⟨header, reaches⟩ := OneTask.reaches_joiningGenerator
  rcases session_is_settled_unless_cut_short reaches (.go _) rfl .refl with short | settled | ⟨e, -, loses, -⟩
  · -- A session of no duration has an end, and the clock was read.
    generalize said : Session.outcome _ = outcome at short
    cases short with
    | endless duration beyond =>
      cases duration
      cases beyond
    | clockless here => cases here
    | aborted => cases said
  · exact ⟨_, reaches.tail (.conductor (.go _)), rfl, rfl, settled⟩
  · cases loses.failure

/-- **A session may return from a running task.** It is valid, but there is no instant at which its time is
over, which its conductor sees when the task is started: nobody has asked for a stop, and the thread has
not ended. -/
theorem session_returns_from_running_task :
    (OneTask.experiment .max).validate = .ok () ∧
    ∃ s, (start OneTask.host (OneTask.experiment .max) OneTask.store).Reaches s ∧
      s.outcome? = some (.error .overflow) ∧ s.running = true ∧ ¬s.Settled ∧
      ∃ started ∈ s.tasks, started.live.control.stopped = false ∧ started.live.machine.end? = none := by
  obtain ⟨header, starting⟩ := OneTask.reaches_starting .max
  have returns : (OneTask.early .max (.starting 0 (OneTask.ready header) OneTask.calibration)).conduct.Spins
      (OneTask.late .max (.returned (.error .overflow)) (.start (OneTask.thread header .admission))) :=
    OneTask.spins_starting .max header
  refine ⟨rfl, _, starting.tail (.conductor returns), rfl, rfl, ?_, _, List.mem_singleton_self _, rfl, rfl⟩
  intro settled
  cases (settled.tasks _ (List.mem_singleton_self _)).stopped

end Session

end TaskTiming
