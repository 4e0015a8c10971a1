import TaskTiming.Proofs.Task.Steps
import TaskTiming.Proofs.Task.ThreadRun

/-!
# What a flush leaves in the log

Behind its loop a thread writes what its ring kept, once, and nothing else goes to the disk. This holds of
every run, also of one in which the clock fails, a sample has no record or the write is refused: what the
sink has recorded is told by the events (`Sink.Recorded`), step by step up to the write (`Thread.Stage`),
and a flush that answers with a report has put the records of all that was kept behind the header
(`Thread.Flushed.read`).
-/

namespace TaskTiming
set_option autoImplicit false

/-! ## What a sink has recorded -/

namespace Sink

/-- From its first state on the sink has recorded the samples of these events, but for the one that the
bracket leaves open. -/
def Recorded (first : Sink) (events bracket : List Event) (sink : Sink) : Prop :=
  ∃ completed, sink = first.recordAll completed ∧
    (first.isSampling = true → ∀ rest, samplesOf (events ++ rest) = completed ++ samplesOf (bracket ++ rest))

variable {first sink sink' : Sink} {events bracket bracket' : List Event} {e : Event}

theorem recorded_nil (first : Sink) : first.Recorded [] [] first := ⟨[], rfl, fun _ _ => rfl⟩

/-- An event moves to the end of the bracket, or completes what it holds. -/
theorem Recorded.move (recorded : first.Recorded events bracket sink) (completed : List Sample)
    (records : sink' = sink.recordAll completed)
    (told : sink.isSampling = true → ∀ rest,
      samplesOf (bracket ++ e :: rest) = completed ++ samplesOf (bracket' ++ rest)) :
    first.Recorded (events ++ [e]) bracket' sink' := by
  obtain ⟨before, rfl, met⟩ := recorded
  refine ⟨before ++ completed, ?_, ?_⟩
  · rw [records, recordAll_append]
  · intro wanted rest
    rw [List.append_assoc, List.singleton_append, met wanted,
      told ((isSampling_recordAll _ _).trans wanted), List.append_assoc]

theorem Recorded.silent (recorded : first.Recorded events [] sink) (silent : e.isSilent = true) :
    first.Recorded (events ++ [e]) [] sink :=
  recorded.move [] rfl fun _ rest => samplesOf_of_silent silent rest

theorem Recorded.silences (recorded : first.Recorded events [] sink) {later : List Event}
    (silent : ∀ e ∈ later, e.isSilent = true) : first.Recorded (events ++ later) [] sink := by
  induction later generalizing events with
  | nil =>
    rw [List.append_nil]
    exact recorded
  | cons e rest ih =>
    have after := ih (recorded.silent (silent e List.mem_cons_self)) fun e' mem =>
      silent e' (List.mem_cons_of_mem _ mem)
    rwa [List.append_assoc] at after

/-- With no bracket open, all samples of the events are recorded. -/
theorem Recorded.all (recorded : first.Recorded events [] sink) :
    sink = first.recordAll (samplesOf events) := by
  obtain ⟨completed, rfl, met⟩ := recorded
  by_cases wanted : first.isSampling = true
  · have told : samplesOf (events ++ []) = completed ++ [] := met wanted []
    rw [List.append_nil, List.append_nil] at told
    rw [told]
  · have unwanted : first.isSampling = false := by simpa using wanted
    rw [recordAll_of_not_sampling unwanted, recordAll_of_not_sampling unwanted]

/-- Moreover nothing was asked of the disk. -/
structure Gathered (first : Sink) (events bracket : List Event) (sink : Sink) : Prop where
  recorded : first.Recorded events bracket sink
  offDisk : ∀ e ∈ events, e.isOnDisk = false

theorem gathered_nil (first : Sink) : first.Gathered [] [] first := ⟨first.recorded_nil, List.forall_mem_nil _⟩

theorem Gathered.snoc (gathered : first.Gathered events bracket sink) (offDisk : e.isOnDisk = false)
    (recorded : first.Recorded (events ++ [e]) bracket' sink') :
    first.Gathered (events ++ [e]) bracket' sink' := by
  refine ⟨recorded, fun e' mem => ?_⟩
  rcases List.mem_append.1 mem with early | late
  · exact gathered.offDisk e' early
  · rw [List.mem_singleton.1 late]
    exact offDisk

theorem Gathered.silent (gathered : first.Gathered events [] sink) (silent : e.isSilent = true)
    (offDisk : e.isOnDisk = false) : first.Gathered (events ++ [e]) [] sink :=
  gathered.snoc offDisk (gathered.recorded.silent silent)

end Sink

namespace Loop

variable {first : Sink} {l l' : Loop} {e : Event} {events : List Event}

theorem offDisk_of_did (did : l.Did e l') : e.isOnDisk = false := by
  cases did <;> rfl

/-- **A loop's sink records what it meets**, orderly or not. -/
theorem recorded_step (recorded : first.Recorded events l.bracket l.sink) (meets : l.next.Meets e l') :
    first.Recorded (events ++ [e]) l'.bracket l'.sink := by
  by_cases orderly : e.Orderly
  · obtain ⟨completed, progress⟩ := step_progress meets orderly
    exact recorded.move _ progress.sink progress.samples
  -- The clock tells an instant that the system does not have, or fails, or a job brings down its thread.
  cases did_of_meets meets with
  | clockedIn here | clocklessIn here =>
    have bracket : l.bracket = [] := by rw [Loop.bracket, here]
    rw [bracket] at recorded
    exact recorded.move [] rfl fun _ _ => rfl
  | panicked here =>
    rename_i start
    have bracket : l.bracket = [.clock (.ok start), .answer .startJob (.ok ())] := by rw [Loop.bracket, here]
    have failed : JobEnd.panicked ≠ .finished (.ok ()) := by
      intro same
      cases same
    rw [bracket] at recorded
    exact recorded.move [] rfl fun _ rest => samplesOf_failure failed rest
  | clockedOut here finish =>
    have progress := record_progress here finish
    exact recorded.move _ progress.sink progress.samples
  | clocklessOut here error =>
    rename_i start
    have bracket : l.bracket =
        [.clock (.ok start), .answer .startJob (.ok ()), .jobEnd (.finished (.ok ()))] := by
      rw [Loop.bracket, here]
    rw [bracket] at recorded
    exact recorded.move [] rfl fun _ _ => rfl
  | failed | finished | counted =>
    refine (orderly ?_).elim
    intro same
    cases same
  | _ => exact (orderly trivial).elim

theorem gathered_step (gathered : first.Gathered events l.bracket l.sink) (meets : l.next.Meets e l') :
    first.Gathered (events ++ [e]) l'.bracket l'.sink :=
  gathered.snoc (offDisk_of_did (did_of_meets meets)) (recorded_step gathered.recorded meets)

end Loop

/-! ## The flush -/

namespace Thread

variable {t₀ t t' : Thread} {e : Event} {events : List Event}

theorem sink_of_same (same : t.task = t₀.task) : t.sink = t₀.sink := by
  rw [Thread.sink, same, ← Thread.sink]

/-- A task's sink is its ring, or nothing. -/
theorem ring_of_recorded {sink : Sink} {bracket : List Event}
    (recorded : t₀.sink.Recorded events bracket sink) : sink = .none ∨ ∃ r, sink = .ring r := by
  obtain ⟨completed, rfl, -⟩ := recorded
  cases ring : t₀.task.ring with
  | none =>
    rw [sink_of_no_ring ring]
    exact .inl (Sink.recordAll_of_not_sampling rfl _)
  | some r =>
    rw [sink_of_ring ring]
    exact .inr ⟨_, Sink.recordAll_ring _ _⟩

/-- A loop starts with the task's sink, however its thread was admitted. -/
theorem gathered_firstLoop (same : t.task = t₀.task) (gathered : t₀.sink.Gathered events [] t₀.sink)
    (silent : e.isSilent = true) (offDisk : e.isOnDisk = false) :
    t₀.sink.Gathered (events ++ [e]) t.firstLoop.bracket t.firstLoop.sink := by
  have start := t.firstLoop_between
  have sink : t.firstLoop.sink = t₀.sink := start.sink.trans (sink_of_same same)
  refine gathered.snoc offDisk (gathered.recorded.move [] sink fun wanted rest => ?_)
  rw [start.closed (by rw [sink]; exact wanted)]
  exact samplesOf_of_silent silent rest

/-- What a thread at a spot before the write has gathered, and what it is about to write of it: all that
was kept, if it has a report on that. -/
def Sampled (t₀ : Thread) (events : List Event) : Spot → Prop
  | .admission => t₀.sink.Gathered events [] t₀.sink
  | .admitted => t₀.sink.Gathered events [] t₀.sink
  | .looping l => t₀.sink.Gathered events l.bracket l.sink
  | .leaving _ sink => t₀.sink.Gathered events [] sink
  | .complaining _ sink => t₀.sink.Gathered events [] sink
  | .warning _ ring _ bytes =>
    t₀.sink.Gathered events [] (.ring ring) ∧ bytes = Log.records ring.samples
  | .writing _ report bytes =>
    ∃ sink, t₀.sink.Gathered events [] sink ∧ ∀ r, report = .ok r → bytes = Log.records sink.kept
  | _ => False

/-- The flush of a thread has ended with an answer: it made its write, behind the header of the log, and
the answer is a report only if all that was kept is written. -/
inductive Written (t₀ : Thread) (answer : Result Report) : List Event → Prop
  | intro {before : List Event} {sink : Sink} {bytes : List UInt8} {saved : Result Unit}
      (gathered : t₀.sink.Gathered before [] sink)
      (complete : ∀ r, answer = .ok r → saved = .ok () ∧ bytes = Log.records sink.kept) :
      Written t₀ answer
        (before ++ [.answer (.write t₀.task.path t₀.task.log.bytes.length bytes) saved])

/-- Only notes and accesses to the control are left. -/
def isBehind (t : Thread) : Bool :=
  match t.spot with
  | .complainingAgain _ _ => true
  | .finishing _ => true
  | .ended _ => true
  | _ => false

/-- It stays so, and neither writes nor completes a sample. -/
theorem behind_step (here : t.isBehind = true) (meets : t.next.Meets e t') :
    t'.isBehind = true ∧ e.isSilent = true ∧ e.isOnDisk = false := by
  unfold isBehind at here
  cases spot : t.spot with
  | complainingAgain _ _ | finishing _ =>
    rw [Thread.next, spot] at meets
    cases meets
    exact ⟨rfl, rfl, rfl⟩
  | ended _ => rw [Thread.next, spot] at meets; cases meets
  | _ => rw [spot] at here; cases here

theorem closing_step {outcome : Result Nat} {answer : Result Report} (here : t.spot = .closing outcome answer)
    (meets : t.next.Meets e t') : t'.isBehind = true ∧ e.isSilent = true ∧ e.isOnDisk = false := by
  rw [Thread.next, here] at meets
  cases meets
  refine ⟨?_, rfl, rfl⟩
  cases outcome with
  | ok _ => rfl
  | error _ => cases answer <;> rfl

/-- How far a thread has come with its log. -/
inductive Stage (t₀ : Thread) (events : List Event) (t : Thread) : Prop
  | before (sampled : t₀.Sampled events t.spot)
  | written {outcome : Result Nat} {answer : Result Report} (here : t.spot = .closing outcome answer)
      (written : t₀.Written answer events)
  | behind (here : t.isBehind = true)

theorem stage_proceed {l : Loop} (gathered : t₀.sink.Gathered events l.bracket l.sink) (t : Thread) :
    t₀.Stage events (t.proceed l) := by
  unfold Thread.proceed
  split
  · rename_i outcome here
    rw [Loop.bracket, here] at gathered
    exact .before gathered
  · exact .behind rfl
  · exact .before gathered

theorem stage_flush {sink : Sink} (gathered : t₀.sink.Gathered events [] sink) (t : Thread)
    (outcome : Result Nat) : t₀.Stage events (t.flush outcome sink) := by
  rcases ring_of_recorded gathered.recorded with rfl | ⟨r, rfl⟩
  · exact .before ⟨.none, gathered, fun _ _ => rfl⟩
  · rcases Log.fits_or_refused r.samples with fits | ⟨older, s, newer, split, fits, refused⟩
    · rw [flush_ring fits]
      split
      · exact .before ⟨gathered, rfl⟩
      · exact .before ⟨_, gathered, fun _ _ => rfl⟩
    · -- The records up to the refused sample are written, but there is no report on them.
      have appended := t.task.log.appendRing_of_refused split fits (Log.encodeSample_of_not_fits refused)
      simp only [Thread.flush, Sink.ring?, appended]
      refine .before ⟨_, gathered, fun r report => ?_⟩
      cases report

/-- The answer of a flush is a report if there is one and it was saved. -/
theorem stage_writing {sink : Sink} {outcome : Result Nat} {report : Result Report} {bytes : List UInt8}
    (here : t.spot = .writing outcome report bytes) (same : t.task = t₀.task)
    (gathered : t₀.sink.Gathered events [] sink)
    (rendered : ∀ r, report = .ok r → bytes = Log.records sink.kept) (meets : t.next.Meets e t') :
    t₀.Stage (events ++ [e]) t' := by
  rw [Thread.next, here] at meets
  cases meets with
  | ask _ _ saved =>
    refine .written rfl ?_
    rw [same]
    refine .intro gathered fun r answer => ?_
    cases report with
    | error _ => cases answer
    | ok r' =>
      cases saved with
      | error _ => cases answer
      | ok => exact ⟨rfl, rendered r' rfl⟩

/-- **One step of a thread** takes it on with its log. -/
theorem Stage.step (stage : t₀.Stage events t) (same : t.task = t₀.task) (meets : t.next.Meets e t') :
    t₀.Stage (events ++ [e]) t' := by
  cases stage with
  | before sampled =>
    cases here : t.spot with
    | admission =>
      rw [here] at sampled
      rw [Thread.next, here] at meets
      have gathered : t₀.sink.Gathered events [] t₀.sink := sampled
      cases meets with
      | ask _ _ outcome =>
        cases outcome with
        | ok => exact .before (gathered.silent rfl rfl)
        | error _ =>
          rw [sink_of_same same]
          exact .before (gathered.silent rfl rfl)
    | admitted =>
      rw [here] at sampled
      rw [Thread.next, here] at meets
      cases meets
      exact stage_proceed (gathered_firstLoop same sampled rfl rfl) t
    | looping l =>
      rw [here] at sampled
      rw [Thread.next, here] at meets
      obtain ⟨l', inner, rfl⟩ := Action.meets_map meets
      exact stage_proceed (Loop.gathered_step sampled inner) t
    | leaving outcome sink =>
      rw [here] at sampled
      rw [Thread.next, here] at meets
      have gathered : t₀.sink.Gathered events [] sink := sampled
      cases meets
      cases outcome with
      | ok n => exact stage_flush (gathered.silent rfl rfl) t _
      | error _ => exact .before (gathered.silent rfl rfl)
    | complaining error sink =>
      rw [here] at sampled
      rw [Thread.next, here] at meets
      have gathered : t₀.sink.Gathered events [] sink := sampled
      cases meets
      exact stage_flush (gathered.silent rfl rfl) t _
    | warning outcome ring report bytes =>
      rw [here] at sampled
      rw [Thread.next, here] at meets
      obtain ⟨gathered, rendered⟩ := sampled
      cases meets
      exact .before ⟨_, gathered.silent rfl rfl, fun _ _ => rendered⟩
    | writing outcome report bytes =>
      rw [here] at sampled
      obtain ⟨sink, gathered, rendered⟩ := sampled
      exact stage_writing here same gathered rendered meets
    | _ => rw [here] at sampled; exact sampled.elim
  | written here written => exact .behind (closing_step here meets).1
  | behind here => exact .behind (behind_step here meets).1

/-- **Where a thread stands with its log** after a run. -/
theorem run_stage {later : List Event} (run : Run Thread.next t later t') (same : t.task = t₀.task)
    (stage : t₀.Stage events t) : t₀.Stage (events ++ later) t' := by
  induction run generalizing events with
  | nil =>
    rw [List.append_nil]
    exact stage
  | cons meets _ ih =>
    have kept := congrArg Thread.task (spot_of_meets meets)
    have after := ih (kept.trans same) (stage.step same meets)
    rwa [List.append_assoc] at after

/-- The one way to the step into `joined` leads by the write. -/
theorem written_of_run {outcome : Result Nat} {answer : Result Report} (start : t₀.spot = .admission)
    (run : Run Thread.next t₀ events { t₀ with spot := .closing outcome answer }) :
    t₀.Written answer events := by
  have sampled : t₀.Sampled [] t₀.spot := by
    rw [start]
    exact Sink.gathered_nil _
  have stage := run_stage run rfl (.before sampled)
  rw [List.nil_append] at stage
  cases stage with
  | before sampled => exact sampled.elim
  | written here written =>
    cases here
    exact written
  | behind here => cases here

theorem run_behind (run : Run Thread.next t events t') (here : t.isBehind = true) :
    ∀ e ∈ events, e.isSilent = true ∧ e.isOnDisk = false := by
  induction run with
  | nil => exact List.forall_mem_nil _
  | cons meets _ ih =>
    obtain ⟨behind, quiet⟩ := behind_step here meets
    exact List.forall_mem_cons.2 ⟨quiet, ih behind⟩

/-- Behind its write a thread neither writes nor completes a sample. -/
theorem run_joining {outcome : Result Nat} {answer : Result Report} (here : t.spot = .closing outcome answer)
    (run : Run Thread.next t events t') : ∀ e ∈ events, e.isSilent = true ∧ e.isOnDisk = false := by
  cases run with
  | nil => exact List.forall_mem_nil _
  | cons meets later =>
    obtain ⟨behind, quiet⟩ := closing_step here meets
    exact List.forall_mem_cons.2 ⟨quiet, run_behind later behind⟩

/-- A thread has come by the step into `joined` with an answer of its flush. -/
inductive Flushed (t₀ : Thread) (answer : Result Report) : List Event → Thread → Prop
  | intro {opening closing : List Event} {outcome : Result Nat} {t : Thread}
      (flushes : Run Thread.next t₀ opening { t₀ with spot := .closing outcome answer })
      (joins : Run Thread.next { t₀ with spot := .closing outcome answer } closing t) :
      Flushed t₀ answer (opening ++ closing) t

theorem Flushed.snoc {answer : Result Report} (flushed : t₀.Flushed answer events t)
    (meets : t.next.Meets e t') : t₀.Flushed answer (events ++ [e]) t' := by
  cases flushed with
  | intro flushes joins =>
    rw [List.append_assoc]
    exact .intro flushes (joins.snoc meets)

/-- **A flush that answers with a report leaves the log complete**: behind the header stand the records of
all samples that the ring kept of the jobs. -/
theorem Flushed.read {p : TaskParams} {t0 : Time} {path : Path} {header : List UInt8} {d d' : Disk}
    {task : ReadyTask} (made : task.Made p t0 path header d) {admission : Admission} {report : Report}
    (flushed : (Thread.start task admission).Flushed (.ok report) events t) (served : Served path d events d') :
    d'.read path = .ok (.ok (header ++ Log.records (p.logged (samplesOf events)))) := by
  cases flushed with
  | intro flushes joins =>
    have quiet := run_joining rfl joins
    cases written_of_run rfl flushes with
    | intro gathered complete =>
      rename_i before sink bytes saved
      obtain ⟨rfl, rfl⟩ := complete report rfl
      rw [List.append_assoc, List.singleton_append] at served ⊢
      rw [← kept_recordAll_sink made admission, ← (gathered.recorded.silences ?_).all]
      · simp only [Thread.start, made.logPath, made.log] at served
        exact served.read_of_write gathered.offDisk (fun e mem => (quiet e mem).2) made.file
      · exact List.forall_mem_cons.2 ⟨rfl, fun e mem => (quiet e mem).1⟩

end Thread

end TaskTiming
