import TaskTiming.Task.Thread
import TaskTiming.Proofs.DiskFiles
import TaskTiming.Proofs.RingContents
import TaskTiming.Proofs.Log.ReadBack
import TaskTiming.Proofs.Task.LoopRun
import TaskTiming.Proofs.Task.MadeReady

/-!
# Runs of a task's thread

From its start to its end a thread is admitted, runs its loop, and closes its log. The run is cut there
(`run_proceed`, `run_leaving`): the loop leaves the samples of the jobs that succeeded, whatever ended it,
and what the thread does behind it puts those that its ring kept into the log and tells the loop's error,
or else the report (`run_leaves_log_and_report`).
-/

namespace TaskTiming
set_option autoImplicit false

/-! ## The disk beside a run -/

/-- What a request does to a disk, if it is made to one. -/
def Request.onDisk (d : Disk) : Request → Option (Except IoError Unit × Disk)
  | .create path bytes => some (d.createWith path bytes)
  | .write path offset bytes => some (d.write path offset bytes)
  | .createDirectories path => some (d.createDirectories path)
  | _ => none

/-- What is asked of the disk is answered by it, and nothing else changes it. -/
def Event.On (d : Disk) (e : Event) (d' : Disk) : Prop :=
  match e with
  | .answer request outcome =>
    match request.onDisk d with
    | some (said, after) => outcome = said.mapError .io ∧ d' = after
    | none => d' = d
  | _ => d' = d

/-- A disk serves a run, and whoever else uses it leaves the file at the path as it is. -/
inductive Served (path : Path) : Disk → List Event → Disk → Prop
  | nil {d d' : Disk} (others : d'.read path = d.read path) : Served path d [] d'
  | cons {d d₁ d₂ d' : Disk} {e : Event} {rest : List Event} (others : d₁.read path = d.read path)
      (served : e.On d₁ d₂) (later : Served path d₂ rest d') : Served path d (e :: rest) d'

variable {path : Path} {d d' : Disk}

theorem Event.on_of_offDisk {e : Event} (off : e.isOnDisk = false) (on : e.On d d') : d' = d := by
  match e with
  | .answer (.create _ _) _ => cases off
  | .answer (.write _ _ _) _ => cases off
  | .answer (.createDirectories _) _ => cases off
  | .answer (.sleepUntil _) _ => exact on
  | .answer (.pause _) _ => exact on
  | .answer (.enter _) _ => exact on
  | .answer (.startThread _) _ => exact on
  | .answer .startJob _ => exact on
  | .answer (.note _) _ => exact on
  | .answer (.print _) _ => exact on
  | .access _ _ => exact on
  | .clock _ => exact on
  | .jobEnd _ => exact on
  | .waitEnd _ => exact on

theorem Event.on_write {offset : Nat} {bytes : List UInt8} {outcome : Result Unit} :
    Event.On d (.answer (.write path offset bytes) outcome) d' ↔
      outcome = (d.write path offset bytes).1.mapError .io ∧ d' = (d.write path offset bytes).2 := Iff.rfl

/-- A run that leaves the disk alone leaves the file as it is. -/
theorem Served.read_of_offDisk {events : List Event} (served : Served path d events d')
    (off : ∀ e ∈ events, e.isOnDisk = false) : d'.read path = d.read path := by
  induction served with
  | nil others => exact others
  | cons others now _ ih =>
    have same := Event.on_of_offDisk (off _ List.mem_cons_self) now
    rw [ih fun e mem => off e (List.mem_cons_of_mem _ mem), same, others]

theorem Served.append {first second : List Event} (served : Served path d (first ++ second) d') :
    ∃ between, Served path d first between ∧ Served path between second d' := by
  induction first generalizing d with
  | nil => exact ⟨d, .nil rfl, served⟩
  | cons e rest ih =>
    cases served with
    | cons others now later =>
      obtain ⟨between, early, late⟩ := ih later
      exact ⟨between, .cons others now early, late⟩

/-- The one write of a run goes to the end of the file. -/
theorem Served.read_of_write {before after : List Event} {old bytes : List UInt8}
    (served : Served path d (before ++ .answer (.write path old.length bytes) (.ok ()) :: after) d')
    (early : ∀ e ∈ before, e.isOnDisk = false) (late : ∀ e ∈ after, e.isOnDisk = false)
    (start : d.read path = .ok (.ok old)) : d'.read path = .ok (.ok (old ++ bytes)) := by
  obtain ⟨between, first, second⟩ := served.append
  cases second with
  | cons others now later =>
    rename_i d₁ d₂
    have found : d₁.read path = .ok (.ok old) := by rw [others, first.read_of_offDisk early, start]
    obtain ⟨said, after⟩ := Event.on_write.1 now
    have written : (d₁.write path old.length bytes).1 = .ok () := by
      cases outcome : (d₁.write path old.length bytes).1 with
      | ok => rfl
      | error cause => rw [outcome] at said; cases said
    rw [later.read_of_offDisk late, after, Disk.read_write found written, Disk.overlay_length]

/-! ## Into the loop and out of it -/

/-- Nothing of interest to the jobs or the disk. -/
def Quiet (events : List Event) : Prop := ∀ e ∈ events, e.isSuccess = false ∧ e.isOnDisk = false

theorem quiet_nil : Quiet [] := by
  intro e mem
  cases mem

theorem Quiet.cons {e : Event} {rest : List Event} (first : e.isSuccess = false ∧ e.isOnDisk = false)
    (later : Quiet rest) : Quiet (e :: rest) := by
  intro e' mem
  rcases List.mem_cons.1 mem with rfl | mem
  · exact first
  · exact later e' mem

theorem Quiet.successes {events : List Event} (quiet : Quiet events) : successes events = 0 := by
  rw [TaskTiming.successes, List.countP_eq_zero]
  intro e mem
  rw [(quiet e mem).1]
  decide

namespace Thread

variable {t t' : Thread} {fate : ThreadEnd} {events : List Event}

/-- Once it has ended, a thread has nothing left to do. -/
theorem next_of_end (ended : t.end? = some fate) : t.next = .idle := by
  unfold Thread.end? at ended
  split at ended
  · rename_i here
    rw [Thread.next, here]
  · cases ended

/-- Out of the loop, down with it, or on with it. -/
theorem proceed_cases (t : Thread) (l : Loop) :
    (∃ outcome, l.spot = .ended outcome ∧ t.proceed l = { t with spot := .leaving outcome l.sink }) ∨
      l.spot = .panicked ∨ l.next ≠ .idle ∧ t.proceed l = { t with spot := .looping l } := by
  cases here : l.spot with
  | ended outcome => exact .inl ⟨outcome, rfl, by rw [Thread.proceed, here]⟩
  | panicked => exact .inr (.inl rfl)
  | _ =>
    refine .inr (.inr ⟨?_, by rw [Thread.proceed, here]⟩)
    rw [Loop.next, here]
    intro idle
    cases idle

/-- **The run of a loop within its thread.** It is a run of the loop on its own, after which the loop is
left with its outcome, or else brings down its thread. -/
theorem run_proceed {l : Loop} {events : List Event} (run : Run Thread.next (t.proceed l) events t')
    (ended : t'.end? = some fate) :
    ∃ looped after l', events = looped ++ after ∧ Run Loop.next l looped l' ∧
      (l'.spot = .panicked ∨ ∃ outcome, l'.spot = .ended outcome ∧
        Run Thread.next { t with spot := .leaving outcome l'.sink } after t') := by
  rcases t.proceed_cases l with ⟨outcome, here, left⟩ | here | ⟨busy, going⟩
  · rw [left] at run
    exact ⟨[], events, l, rfl, .nil l, .inr ⟨outcome, here, run⟩⟩
  · exact ⟨[], events, l, rfl, .nil l, .inl here⟩
  · rw [going] at run
    have step : Thread.next { t with spot := .looping l } = l.next.map t.proceed := rfl
    have going : Thread.next { t with spot := .looping l } ≠ .idle := by
      rw [step]
      intro idle
      exact busy (Action.map_eq_idle idle)
    obtain ⟨e, rest, u, rfl, meets, later⟩ := run.first (next_of_end ended) going
    rw [step] at meets
    obtain ⟨l₁, first, rfl⟩ := Action.meets_map meets
    obtain ⟨looped, after, l', rfl, more, left⟩ := run_proceed later ended
    exact ⟨e :: looped, after, l', rfl, .cons first more, left⟩
termination_by events.length

/-- A thread on its best effort gets into its loop. -/
theorem run_admission {task : ReadyTask} (run : Run Thread.next (Thread.start task .bestEffort) events t')
    (ended : t'.end? = some fate) (orderly : ∀ e ∈ events, e.Orderly) :
    let start := Thread.start task .bestEffort
    ∃ opening rest, events = opening ++ rest ∧ Quiet opening ∧
      Run Thread.next start opening (start.proceed start.firstLoop) ∧
      Run Thread.next (start.proceed start.firstLoop) rest t' := by
  intro start
  obtain ⟨outcome, rest, rfl, asked⟩ := run.first_answer (next_of_end ended) rfl
  obtain ⟨host, admitted⟩ := orderly _ List.mem_cons_self
  subst admitted
  obtain ⟨found, rest, rfl, looping⟩ := asked.first_access (next_of_end ended) rfl
  have enters : Run Thread.next start
      [.answer (.enter .bestEffort) (.ok ()), .access found (found.advance .released)]
      (start.proceed start.firstLoop) :=
    .cons (.ask _ _ _) (.cons (.access _ _) (.nil _))
  exact ⟨_, rest, rfl, .cons ⟨rfl, rfl⟩ (.cons ⟨rfl, rfl⟩ quiet_nil), enters, looping⟩

/-- Behind the writing, the loop's error comes before the report. -/
theorem run_closing {outcome : Result Nat} {report : Report}
    (run : Run Thread.next { t with spot := .closing outcome (.ok report) } events t')
    (ended : t'.end? = some fate) : Quiet events ∧ fate = .returned (outcome.map fun _ => report) := by
  obtain ⟨found, rest, rfl, joined⟩ := run.first_access (next_of_end ended) rfl
  have finishing : Run Thread.next
      { t with spot := .finishing (.returned (outcome.map fun _ => report)) } rest t' := by
    cases outcome with
    | ok n => exact joined
    | error e => exact joined
  obtain ⟨found', rest, rfl, last⟩ := finishing.first_access (next_of_end ended) rfl
  obtain ⟨rfl, rfl⟩ := last.of_idle rfl
  refine ⟨.cons ⟨rfl, rfl⟩ (.cons ⟨rfl, rfl⟩ quiet_nil), ?_⟩
  cases ended
  rfl

/-- The samples that a ring kept become records, with a warning before if it lost some. -/
theorem flush_ring {r : Ring} (fits : ∀ s ∈ r.samples, s.FitsNative) (outcome : Result Nat) :
    let report := t.report outcome (some r) r.samples.length
    t.flush outcome (.ring r) =
      if r.overrun then { t with spot := .warning outcome r report (Log.records r.samples) }
      else { t with spot := .writing outcome (.ok report) (Log.records r.samples) } := by
  simp only [Thread.flush, Sink.ring?, Log.Writer.appendRing_of_fits fits, List.drop_left]

/-- Events in which a thread puts what a sink kept behind the header of its log, and nothing else into
it, and then ends with the loop's error or its report. -/
inductive Closes (t : Thread) (outcome : Result Nat) (sink : Sink) : List Event → ThreadEnd → Prop
  | intro {before after : List Event} (early : Quiet before) (late : Quiet after) :
      Closes t outcome sink
        (before ++
          .answer (.write t.task.path t.task.log.bytes.length (Log.records sink.kept)) (.ok ()) :: after)
        (.returned (outcome.map fun _ => t.report outcome sink.ring? sink.kept.length))

theorem Closes.cons {outcome : Result Nat} {sink : Sink} {e : Event}
    (quiet : e.isSuccess = false ∧ e.isOnDisk = false) (closes : t.Closes outcome sink events fate) :
    t.Closes outcome sink (e :: events) fate := by
  cases closes with
  | intro early late => exact .intro (.cons quiet early) late

/-- What is written gets written, and the thread closes. -/
theorem run_writing {outcome : Result Nat} {sink : Sink}
    (run : Run Thread.next { t with
      spot := .writing outcome (.ok (t.report outcome sink.ring? sink.kept.length)) (Log.records sink.kept) }
      events t')
    (ended : t'.end? = some fate) (orderly : ∀ e ∈ events, e.Orderly) :
    t.Closes outcome sink events fate := by
  obtain ⟨saved, rest, rfl, asked⟩ := run.first_answer (next_of_end ended) rfl
  have written : saved = .ok () := orderly _ List.mem_cons_self
  subst written
  obtain ⟨quiet, rfl⟩ := run_closing asked ended
  exact .intro quiet_nil quiet

/-- What a ring kept is written, and so is the nothing that no ring kept. -/
theorem run_flush {outcome : Result Nat} {sink : Sink} (ring : sink = .none ∨ ∃ r, sink = .ring r)
    (fits : ∀ s ∈ sink.kept, s.FitsNative) (run : Run Thread.next (t.flush outcome sink) events t')
    (ended : t'.end? = some fate) (orderly : ∀ e ∈ events, e.Orderly) :
    t.Closes outcome sink events fate := by
  rcases ring with rfl | ⟨r, rfl⟩
  · exact run_writing run ended orderly
  · rw [flush_ring fits] at run
    split at run
    · obtain ⟨noted, rest, rfl, writing⟩ := run.first_answer (next_of_end ended) rfl
      have closes : t.Closes outcome (.ring r) rest fate :=
        run_writing (t := t) writing ended fun e mem => orderly e (List.mem_cons_of_mem _ mem)
      exact closes.cons ⟨rfl, rfl⟩
    · exact run_writing run ended orderly

/-- **The run of a thread behind its loop**, however the loop ended. -/
theorem run_leaving {outcome : Result Nat} {sink : Sink} (ring : sink = .none ∨ ∃ r, sink = .ring r)
    (fits : ∀ s ∈ sink.kept, s.FitsNative)
    (run : Run Thread.next { t with spot := .leaving outcome sink } events t')
    (ended : t'.end? = some fate) (orderly : ∀ e ∈ events, e.Orderly) :
    t.Closes outcome sink events fate := by
  obtain ⟨found, rest, rfl, stopped⟩ := run.first_access (next_of_end ended) rfl
  have orderly' : ∀ e ∈ rest, e.Orderly := fun e mem => orderly e (List.mem_cons_of_mem _ mem)
  cases outcome with
  | ok n =>
    have closes : t.Closes (.ok n) sink rest fate := run_flush (t := t) ring fits stopped ended orderly'
    exact closes.cons ⟨rfl, rfl⟩
  | error e =>
    obtain ⟨noted, rest, rfl, flushing⟩ := stopped.first_answer (next_of_end ended) rfl
    have closes : t.Closes (.error e) sink rest fate :=
      run_flush (t := t) ring fits flushing ended fun e mem => orderly' e (List.mem_cons_of_mem _ mem)
    refine Closes.cons ⟨rfl, rfl⟩ ?_
    exact closes.cons ⟨rfl, rfl⟩

end Thread

/-! ## From the task to its report -/

namespace TaskParams

/-- The samples that come into the log of all that were taken. -/
def logged (p : TaskParams) (samples : List Sample) : List Sample :=
  if p.stats.enabled then p.stats.policy.kept p.stats.capacity.toNat samples else []

/-- The report on so many jobs, each of which offered a sample if samples are wanted. -/
def reportOn (p : TaskParams) (path : Path) (jobs : Nat) : Report :=
  let offered := if p.stats.enabled then jobs else 0
  let written := min offered p.stats.capacity.toNat
  { name := p.name
    jobs
    totalWrites := offered
    samplesWritten := written
    lost := offered - written
    overrun := decide (p.stats.capacity.toNat < offered)
    logPath := path }

end TaskParams

namespace ReadyTask

/-- A task that was made ready, with its header on the disk. -/
structure Made (task : ReadyTask) (p : TaskParams) (t0 : Time) (path : Path) (header : List UInt8)
    (d : Disk) : Prop where
  params : task.params = p
  logPath : task.path = path
  encoded : (p.header t0).encode = .ok header
  log : task.log = { bytes := header, samples := 0 }
  ring : if p.stats.enabled then
      ∃ pos, task.ring = some (Ring.blank p.stats.capacity.toNat p.stats.policy pos)
    else task.ring = none
  file : d.read path = .ok (.ok header)

/-- A ring that parameters ask for is blank and has their capacity. -/
theorem ring_of_ringOf {s : StatsConfig} {ring : Option Ring} (made : ringOf s = .ok ring) :
    if s.enabled then ∃ pos, ring = some (Ring.blank s.capacity.toNat s.policy pos) else ring = none := by
  unfold ringOf at made
  by_cases enabled : s.enabled
  · rw [if_pos enabled] at made ⊢
    by_cases pos : 0 < s.capacity.toNat
    · rw [Ring.new_eq_ok pos] at made
      cases made
      exact ⟨pos, rfl⟩
    · rw [Ring.new, dif_neg pos] at made
      cases made
  · rw [if_neg enabled] at made ⊢
    cases made
    rfl

theorem made_of_new {p : TaskParams} {t0 : Time} {path : Path} {d d' : Disk} {task : ReadyTask}
    (made : ReadyTask.new p t0 path d = (.ok task, d')) : ∃ header, task.Made p t0 path header d' := by
  unfold ReadyTask.new at made
  cases prepared : prepare p t0 path with
  | error e => rw [prepared] at made; cases made
  | ok ready =>
    obtain ⟨-, -, ring, header, hasRing, encoded, rfl⟩ := prepare_eq_ok_iff.1 prepared
    rw [prepared] at made
    cases created : d.createWith path header with
    | mk outcome after =>
      simp only [create, Log.Writer.save, created] at made
      cases outcome with
      | error cause => cases made
      | ok _ =>
        cases made
        exact ⟨header, rfl, rfl, encoded, rfl, ring_of_ringOf hasRing, Disk.read_createWith created⟩

end ReadyTask

namespace Thread

theorem sink_of_ring {t : Thread} {r : Ring} (ring : t.task.ring = some r) : t.sink = .ring r := by
  rw [Thread.sink, ring]

theorem sink_of_no_ring {t : Thread} (none : t.task.ring = .none) : t.sink = .none := by
  rw [Thread.sink, none]

/-- A loop starts with the task's sink and no job. -/
theorem firstLoop_between (t : Thread) : t.firstLoop.Between t.sink 0 := by
  unfold Thread.firstLoop
  dsimp only
  split
  · exact Loop.between_of_bracket rfl ⟨nofun, nofun⟩
  · split
    · exact Loop.sleepTo_between _ _
    · exact Loop.fail_between _ _

section Made

variable {task : ReadyTask} {p : TaskParams} {t0 : Time} {path : Path} {header : List UInt8} {d : Disk}

/-- A task made ready starts with a blank ring, or without one. -/
theorem recordAll_sink (made : task.Made p t0 path header d) (admission : Admission) (samples : List Sample) :
    if p.stats.enabled then
      ∃ r, (Thread.start task admission).sink.recordAll samples = .ring r ∧
        r.Tally p.stats.capacity.toNat p.stats.policy samples
    else (Thread.start task admission).sink.recordAll samples = .none := by
  have ring := made.ring
  by_cases enabled : p.stats.enabled
  · rw [if_pos enabled] at ring ⊢
    obtain ⟨pos, here⟩ := ring
    rw [sink_of_ring here]
    exact ⟨_, Sink.recordAll_ring _ _, Ring.tally_recordAll pos _ samples⟩
  · rw [if_neg enabled] at ring ⊢
    rw [sink_of_no_ring ring]
    exact Sink.recordAll_of_not_sampling rfl samples

/-- What comes into the log is what the sink kept. -/
theorem kept_recordAll_sink (made : task.Made p t0 path header d) (admission : Admission)
    (samples : List Sample) :
    ((Thread.start task admission).sink.recordAll samples).kept = p.logged samples := by
  have sink := recordAll_sink made admission samples
  by_cases enabled : p.stats.enabled
  · rw [if_pos enabled] at sink
    obtain ⟨r, here, tally⟩ := sink
    rw [here, TaskParams.logged, if_pos enabled]
    exact tally.samples
  · rw [if_neg enabled] at sink
    rw [sink, TaskParams.logged, if_neg enabled]
    rfl

/-- A ring or nothing. -/
theorem ring_of_recordAll_sink (made : task.Made p t0 path header d) (admission : Admission)
    (samples : List Sample) :
    (Thread.start task admission).sink.recordAll samples = .none ∨
      ∃ r, (Thread.start task admission).sink.recordAll samples = .ring r := by
  have sink := recordAll_sink made admission samples
  split at sink
  · obtain ⟨r, here, -⟩ := sink
    exact .inr ⟨r, here⟩
  · exact .inl sink

/-- Samples are wanted if statistics are. -/
theorem isSampling_sink (made : task.Made p t0 path header d) (admission : Admission)
    (enabled : p.stats.enabled) : (Thread.start task admission).sink.isSampling := by
  have sink := recordAll_sink made admission []
  rw [if_pos enabled] at sink
  obtain ⟨r, here, -⟩ := sink
  rw [show (Thread.start task admission).sink = .ring r from here]
  rfl

/-- The report counts what was offered to the ring and what it kept. -/
theorem report_recordAll_sink (made : task.Made p t0 path header d) (admission : Admission)
    {samples : List Sample} {spot : Spot} {outcome : Result Nat} {jobs : Nat}
    (count : ∀ n, outcome = .ok n → n = jobs) (lengths : p.stats.enabled → samples.length = jobs) :
    let sink := (Thread.start task admission).sink.recordAll samples
    (outcome.map fun _ => Thread.report ⟨task, admission, spot⟩ outcome sink.ring? sink.kept.length) =
      outcome.map fun _ => p.reportOn path jobs := by
  intro sink
  cases outcome with
  | error e => rfl
  | ok n =>
    have same := count n rfl
    subst same
    have here := recordAll_sink made admission samples
    by_cases enabled : p.stats.enabled
    · rw [if_pos enabled] at here
      obtain ⟨r, here, tally⟩ := here
      have kept : r.samples.length = min n p.stats.capacity.toNat := by
        rw [tally.samples, OverrunPolicy.length_kept, lengths enabled]
      have lost : r.lost = n - min n p.stats.capacity.toNat := by
        have all := tally.lost
        rw [tally.length, lengths enabled] at all
        omega
      have overrun : r.overrun = decide (p.stats.capacity.toNat < n) := by
        rw [Bool.eq_iff_iff, tally.overrun, lengths enabled, decide_eq_true_iff]
      show Except.ok _ = Except.ok _
      rw [show sink = .ring r from here]
      simp only [Thread.report, Sink.ring?, Sink.kept, TaskParams.reportOn, if_pos enabled, made.params,
        made.logPath, kept, Option.map_some, Option.getD_some, tally.total, lengths enabled, overrun, lost]
      rfl
    · rw [if_neg enabled] at here
      show Except.ok _ = Except.ok _
      rw [show sink = .none from here]
      simp only [Thread.report, Sink.ring?, Sink.kept, TaskParams.reportOn, if_neg enabled, made.params,
        made.logPath, Nat.zero_min, Nat.not_lt_zero, decide_false]
      rfl

end Made

/-- A run of a thread, cut where its loop begins and where the loop ends with its outcome. -/
inductive Cut (t : Thread) (looped : List Event) (outcome : Result Nat) : List Event → Thread → Prop
  | intro {opening closing : List Event} {l : Loop} {t' : Thread}
      (enters : Run Thread.next t opening (t.proceed t.firstLoop))
      (loops : Run Loop.next t.firstLoop looped l) (ends : l.spot = .ended outcome)
      (leaves : Run Thread.next { t with spot := .leaving outcome l.sink } closing t') :
      Cut t looped outcome (opening ++ (looped ++ closing)) t'

/-- Samples of jobs in an orderly run have records. -/
theorem fits_of_orderly {looped : List Event} (orderly : ∀ e ∈ looped, e.Orderly) {s : Sample}
    (mem : s ∈ samplesOf looped) : s.FitsNative := by
  obtain ⟨start, finish⟩ := clock_of_mem_samplesOf mem
  obtain ⟨_, same, fits⟩ := orderly _ start
  cases same
  obtain ⟨_, same', fits'⟩ := orderly _ finish
  cases same'
  exact ⟨fits, fits'⟩

theorem mem_of_mem_logged {p : TaskParams} {samples : List Sample} {s : Sample}
    (mem : s ∈ p.logged samples) : s ∈ samples := by
  unfold TaskParams.logged at mem
  split at mem
  · exact OverrunPolicy.mem_of_mem_kept mem
  · cases mem

/-- **A task's thread as a whole.** Whatever its jobs do and whoever stops it when, the log of an orderly
run is the header and the records of the samples that the ring kept, one sample was offered for each job
that succeeded, and joining the thread gives the loop's error or else the report on these jobs. -/
theorem run_leaves_log_and_report {p : TaskParams} {t0 : Time} {path : Path} {d d₀ d₁ : Disk}
    {task : ReadyTask} (made : ReadyTask.new p t0 path d = (.ok task, d₀)) {events : List Event} {t' : Thread}
    (run : Run Thread.next (Thread.start task .bestEffort) events t') {fate : ThreadEnd}
    (ended : t'.end? = some fate) (orderly : ∀ e ∈ events, e.Orderly) (served : Served path d₀ events d₁) :
    ∃ looped outcome, (Thread.start task .bestEffort).Cut looped outcome events t' ∧
      successes events = successes looped ∧
      (p.stats.enabled → (samplesOf looped).length = successes looped) ∧
      (∃ header, (p.header t0).encode = .ok header ∧
        d₁.read path = .ok (.ok (header ++ Log.records (p.logged (samplesOf looped))))) ∧
      t'.joined fate = outcome.map fun _ => p.reportOn path (successes looped) := by
  obtain ⟨header, made⟩ := ReadyTask.made_of_new made
  obtain ⟨opening, rest, rfl, opens, enters, looping⟩ := run_admission run ended orderly
  obtain ⟨looped, closing, l, rfl, loop, left⟩ := run_proceed looping ended
  have orderly' : ∀ e ∈ looped, e.Orderly := fun e mem => orderly e (by simp [mem])
  have start := (Thread.start task .bestEffort).firstLoop_between
  have idle : l.next = .idle := by
    rcases left with here | ⟨outcome, here, -⟩
    · rw [Loop.next, here]
    · rw [Loop.next, here]
  have result := Loop.run_to_end loop orderly' start idle
  rcases left with down | ⟨outcome, out, leaving⟩
  · exact (result.up down).elim
  have fits : ∀ s ∈ l.sink.kept, s.FitsNative := by
    intro s mem
    rw [result.recorded, kept_recordAll_sink made] at mem
    exact fits_of_orderly orderly' (mem_of_mem_logged mem)
  have ring : l.sink = .none ∨ ∃ r, l.sink = .ring r := by
    rw [result.recorded]
    exact ring_of_recordAll_sink made _ _
  obtain ⟨early, late⟩ := run_leaving ring fits leaving ended fun e mem => orderly e (by simp [mem])
  rename_i before after
  have lengths : p.stats.enabled → (samplesOf looped).length = successes looped := by
    intro enabled
    exact result.samples (isSampling_sink made _ enabled)
  refine ⟨looped, outcome, .intro enters loop out leaving, ?_, lengths, ⟨header, made.encoded, ?_⟩, ?_⟩
  · rw [successes_append, successes_append, successes_append, opens.successes, early.successes,
      successes_cons, late.successes, Nat.zero_add]
    rfl
  · have kept : l.sink.kept = p.logged (samplesOf looped) := by
      rw [result.recorded]
      exact kept_recordAll_sink made _ _
    -- The write stands alone among events that leave the disk alone.
    have cut : opening ++ (looped ++ (before ++
        .answer (.write path header.length (Log.records l.sink.kept)) (.ok ()) :: after)) =
        (opening ++ looped ++ before) ++
          .answer (.write path header.length (Log.records l.sink.kept)) (.ok ()) :: after := by
      simp only [List.append_assoc]
    simp only [Thread.start, made.logPath, made.log] at served
    rw [cut] at served
    rw [← kept]
    refine served.read_of_write ?_ ?_ made.file
    · intro e mem
      rcases List.mem_append.1 mem with mem | mem
      · rcases List.mem_append.1 mem with mem | mem
        · exact (opens e mem).2
        · exact result.offDisk e mem
      · exact (early e mem).2
    · intro e mem
      exact (late e mem).2
  · show Except.map _ outcome = _
    rw [result.recorded]
    exact report_recordAll_sink made .bestEffort (fun n same => result.count n (by rw [out, same])) lengths

end Thread

/-! ## A task with one job -/

namespace OneJob

def params : TaskParams :=
  { TaskParams.aperiodic "tau" (.ofSecs 1) (.ofSecs 2) with
    stats := { enabled := true, capacity := 1, policy := .overwrite }, maxJobs := some 1 }

def sample : Sample := { start := .ofSecs 7, finish := .ofSecs 8 }

def ring : Ring := .blank 1 .overwrite Nat.one_pos

def task (header : List UInt8) : ReadyTask :=
  { params, t0 := .ofSecs 5, ring := some ring, log := { bytes := header, samples := 0 }, path := ⟨"log"⟩ }

/-- A disk with the log alone. -/
def disk (log : List UInt8) : Disk := { nodes := [(["log"], .file log)], here := [], room := none }

theorem write_disk (log bytes : List UInt8) :
    (disk log).write ⟨"log"⟩ log.length bytes = (.ok (), disk (log ++ bytes)) := by
  rw [← Disk.overlay_length]
  show (if bytes.length = bytes.length then _ else _, _) = _
  rw [if_pos rfl]
  rfl

theorem new_eq_ok : ∃ header, ReadyTask.new params (.ofSecs 5) ⟨"log"⟩ .empty =
    (.ok (task header), disk header) := by
  have short : (params.header (.ofSecs 5)).nameBytes.length ≤ Log.maxNameLength := by
    rw [Log.Header.nameBytes, Log.toList_eq_data]
    decide
  obtain ⟨header, encoded⟩ := (params.header (.ofSecs 5)).encode_accepts short (by decide)
  have prepared : ReadyTask.prepare params (.ofSecs 5) ⟨"log"⟩ = .ok (task header) := by
    unfold ReadyTask.prepare Log.Writer.new
    rw [encoded]
    rfl
  have created : Disk.empty.create ⟨"log"⟩ = (.ok (), disk []) := rfl
  have written : (disk []).write ⟨"log"⟩ 0 header = (.ok (), disk header) := write_disk [] header
  have made : Disk.empty.createWith ⟨"log"⟩ header = (.ok (), disk header) := by
    rw [Disk.createWith, created]
    simp only [written]
  have create : (task header).create .empty = (.ok (), disk header) := by
    rw [ReadyTask.create, Log.Writer.save]
    simp only [task, made]
    rfl
  refine ⟨header, ?_⟩
  rw [ReadyTask.new, prepared]
  simp only [create]
  rfl

/-- The thread of the task at some spot. -/
def thread (header : List UInt8) (spot : Thread.Spot) : Thread :=
  { task := task header, admission := .bestEffort, spot }

/-- The loop before the job is done, at some spot. -/
def loop (spot : Loop.Spot) : Thread.Spot :=
  .looping { pace := .aperiodic, maxJobs := some 1, sink := .ring ring, jobs := 0, release := .zero, spot }

def filled : Ring := (ring.record sample).1

def report : Report := params.reportOn ⟨"log"⟩ 1

def admitted : Control := Control.new.advance .released

def waiting : Control := { admitted with inWait := true }

def running : Control := admitted.advance .running

def stopped : Control := running.advance .stopped

def joined : Control := stopped.advance .joined

/-- What the thread meets. -/
def events (header : List UInt8) : List Event :=
  [.answer (.enter .bestEffort) (.ok ()), .access .new admitted, .access admitted waiting,
    .access waiting waiting, .waitEnd (.ok .released), .access waiting admitted, .access admitted running,
    .clock (.ok sample.start), .answer .startJob (.ok ()), .jobEnd (.finished (.ok ())),
    .clock (.ok sample.finish), .access running stopped,
    .answer (.write ⟨"log"⟩ header.length (Log.records filled.samples)) (.ok ()),
    .access stopped joined, .access joined { joined with finished := true }]

theorem run (header : List UInt8) :
    Run Thread.next (Thread.start (task header) .bestEffort) (events header)
      (thread header (.ended (.returned (.ok report)))) := by
  have flushed : (thread header (.leaving (.ok 1) (.ring filled))).flush (.ok 1) (.ring filled) =
      thread header (.writing (.ok 1) (.ok report) (Log.records filled.samples)) :=
    Thread.flush_ring (by decide) (.ok 1)
  refine .cons (.ask _ _ _) (?_ : Run _ (thread header .admitted) _ _)
  refine .cons (.access _ _) (?_ : Run _ (thread header (loop .raise)) _ _)
  refine .cons (.access _ _) (?_ : Run _ (thread header (loop .look)) _ _)
  refine .cons (.access _ _) (?_ : Run _ (thread header (loop .wait)) _ _)
  refine .cons (.awaitRelease _ _) (?_ : Run _ (thread header (loop (.lower (.ok .released)))) _ _)
  refine .cons (.access _ _) (?_ : Run _ (thread header (loop .enter)) _ _)
  refine .cons (.access _ _) (?_ : Run _ (thread header (loop .clockIn)) _ _)
  refine .cons (.readClock _ _) (?_ : Run _ (thread header (loop (.job sample.start))) _ _)
  refine .cons (.ask _ _ _) (?_ : Run _ (thread header (loop (.working sample.start))) _ _)
  refine .cons (.finishJob _ _) (?_ : Run _ (thread header (loop (.clockOut sample.start))) _ _)
  refine .cons (.readClock _ _) (?_ : Run _ (thread header (.leaving (.ok 1) (.ring filled))) _ _)
  refine .cons (.access _ _)
    (?_ : Run _ ((thread header (.leaving (.ok 1) (.ring filled))).flush (.ok 1) (.ring filled)) _ _)
  rw [flushed]
  refine .cons (.ask _ _ _) (?_ : Run _ (thread header (.closing (.ok 1) (.ok report))) _ _)
  refine .cons (.access _ _)
    (?_ : Run _ (thread header (.finishing (.returned (.ok report)))) _ _)
  exact .cons (.access _ _) (.nil _)

theorem orderly (header : List UInt8) : ∀ e ∈ events header, e.Orderly := by
  let host : Host := {
    allowed := .empty, privileged := false, frequency := fun _ => none, governor := fun _ => none }
  simp only [events, List.forall_mem_cons]
  exact ⟨⟨host, rfl⟩, trivial, trivial, trivial, trivial, trivial, trivial, ⟨_, rfl, by decide⟩, trivial,
    nofun, ⟨_, rfl, by decide⟩, trivial, rfl, trivial, trivial, List.forall_mem_nil _⟩

theorem served (header : List UInt8) :
    Served ⟨"log"⟩ (disk header) (events header) (disk (header ++ Log.records filled.samples)) := by
  have saved : Event.On (disk header)
      (.answer (.write ⟨"log"⟩ header.length (Log.records filled.samples)) (.ok ()))
      (disk (header ++ Log.records filled.samples)) := by
    rw [Event.on_write, write_disk]
    exact ⟨rfl, rfl⟩
  unfold events
  iterate 12 refine .cons rfl rfl ?_
  exact .cons rfl saved (.cons rfl rfl (.cons rfl rfl (.nil rfl)))

end OneJob

/-- A released task does its only job and leaves its sample and its report. -/
theorem run_leaves_log_and_report_once :
    ∃ header, ReadyTask.new OneJob.params (.ofSecs 5) ⟨"log"⟩ .empty =
        (.ok (OneJob.task header), OneJob.disk header) ∧
      ∃ looped outcome,
        (Thread.start (OneJob.task header) .bestEffort).Cut looped outcome (OneJob.events header)
          (OneJob.thread header (.ended (.returned (.ok OneJob.report)))) ∧
        successes looped = 1 ∧ (samplesOf looped).length = 1 ∧
        outcome.map (fun _ => OneJob.report) = .ok OneJob.report := by
  obtain ⟨header, made⟩ := OneJob.new_eq_ok
  obtain ⟨looped, outcome, cut, jobs, lengths, -, joined⟩ :=
    Thread.run_leaves_log_and_report made (OneJob.run header) rfl (OneJob.orderly header) (OneJob.served header)
  have one : successes looped = 1 := jobs.symm
  rw [one] at lengths joined
  exact ⟨header, made, looped, outcome, cut, one, lengths rfl, joined.symm⟩

end TaskTiming
