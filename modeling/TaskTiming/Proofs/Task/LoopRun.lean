import TaskTiming.Proofs.Log.RecordCodec
import TaskTiming.Proofs.Task.Run

/-!
# Runs of a job loop

However a loop is scheduled and however it ends, it counts the jobs that succeeded and samples no others.
A sample is the two readings of the clock around a job that succeeded (`samplesOf`), so the loop is
followed from the first of these readings on: what a loop has met of a sample that is not complete yet is
its `bracket`, and each step moves an event from the front of the run to the end of the bracket or
completes a sample (`Loop.Progress`).
-/

namespace TaskTiming
set_option autoImplicit false

/-! ## What a run has done -/

/-- A job succeeds. -/
def Event.isSuccess : Event → Bool
  | .jobEnd (.finished (.ok ())) => true
  | _ => false

/-- How many jobs succeed. -/
def successes (events : List Event) : Nat := events.countP Event.isSuccess

/-- The samples of the jobs that succeed: the readings of the clock around them. -/
def samplesOf : List Event → List Sample
  | .clock (.ok start) :: .answer .startJob _ :: .jobEnd (.finished (.ok ())) ::
      .clock (.ok finish) :: rest => { start, finish } :: samplesOf rest
  | _ :: rest => samplesOf rest
  | [] => []

/-- What is asked for: the clock can be read and tells an instant that the system has, no job brings down
its thread, a host admits or refuses, and what is written gets written. -/
def Event.Orderly : Event → Prop
  | .clock now => ∃ t : Time, now = .ok t ∧ t.FitsNative
  | .jobEnd outcome => outcome ≠ .panicked
  | .answer (.enter admission) outcome => ∃ host, outcome = admission.enter host
  | .answer (.write _ _ _) outcome => outcome = .ok ()
  | _ => True

/-- Neither a job ends nor is the clock read. -/
def Event.isSilent : Event → Bool
  | .clock _ => false
  | .jobEnd _ => false
  | _ => true

/-- Something is asked of the disk. -/
def Event.isOnDisk : Event → Bool
  | .answer (.create _ _) _ => true
  | .answer (.write _ _ _) _ => true
  | .answer (.createDirectories _) _ => true
  | _ => false

theorem successes_cons (e : Event) (rest : List Event) :
    successes (e :: rest) = successes rest + if e.isSuccess then 1 else 0 := List.countP_cons

theorem successes_append (first second : List Event) :
    successes (first ++ second) = successes first + successes second := List.countP_append

theorem successes_of_silent {e : Event} (silent : e.isSilent) (rest : List Event) :
    successes (e :: rest) = successes rest := by
  have plain : e.isSuccess = false := by
    cases e with
    | jobEnd outcome => cases silent
    | _ => rfl
  rw [successes_cons, plain]
  rfl

theorem samplesOf_of_silent {e : Event} (silent : e.isSilent) (rest : List Event) :
    samplesOf (e :: rest) = samplesOf rest := by
  rw [samplesOf]
  rintro start _ finish _ rfl _
  cases silent

/-- The end of a job starts no sample. -/
theorem samplesOf_jobEnd (outcome : JobEnd) (rest : List Event) :
    samplesOf (.jobEnd outcome :: rest) = samplesOf rest := by
  rw [samplesOf]
  intro start _ finish _ same
  cases same

/-- How starting a job is answered makes no difference. -/
theorem samplesOf_startJob (start : Result Time) (outcome other : Result Unit) (rest : List Event) :
    samplesOf (.clock start :: .answer .startJob outcome :: rest) =
      samplesOf (.clock start :: .answer .startJob other :: rest) := by
  by_cases complete : ∃ t finish later, start = .ok t ∧
      rest = .jobEnd (.finished (.ok ())) :: .clock (.ok finish) :: later
  · obtain ⟨t, finish, later, rfl, rfl⟩ := complete
    rfl
  · have skipped : ∀ outcome,
        samplesOf (.clock start :: .answer .startJob outcome :: rest) = samplesOf rest := by
      intro outcome
      rw [samplesOf, samplesOf_of_silent rfl]
      rintro t _ finish later e₁ e₂
      cases e₁
      cases e₂
      exact complete ⟨_, _, _, rfl, rfl⟩
    rw [skipped, skipped]

/-- A job that does not succeed leaves no sample. -/
theorem samplesOf_failure {start : Result Time} {answer : Result Unit} {outcome : JobEnd}
    (failed : outcome ≠ .finished (.ok ())) (rest : List Event) :
    samplesOf (.clock start :: .answer .startJob answer :: .jobEnd outcome :: rest) = samplesOf rest := by
  rw [samplesOf, samplesOf_of_silent rfl, samplesOf_jobEnd]
  rintro t _ finish later _ e
  cases e
  exact failed rfl

/-- A sample holds two readings of the clock. -/
theorem clock_of_mem_samplesOf {events : List Event} {s : Sample} (mem : s ∈ samplesOf events) :
    .clock (.ok s.start) ∈ events ∧ .clock (.ok s.finish) ∈ events := by
  fun_induction samplesOf events with
  | case1 start outcome finish rest ih =>
    rcases List.mem_cons.1 mem with rfl | later
    · simp
    · simp [ih later]
  | case2 e rest _ ih => exact ⟨List.mem_cons_of_mem _ (ih mem).1, List.mem_cons_of_mem _ (ih mem).2⟩
  | case3 => cases mem

/-! ## Sinks -/

namespace Sink

def recordAll (k : Sink) (samples : List Sample) : Sink := samples.foldl (fun k s => k.record s) k

theorem recordAll_append (k : Sink) (first second : List Sample) :
    k.recordAll (first ++ second) = (k.recordAll first).recordAll second := List.foldl_append

/-- Samples are wanted to the end, or never. -/
theorem isSampling_recordAll (k : Sink) (samples : List Sample) : (k.recordAll samples).isSampling = k.isSampling := by
  induction samples generalizing k with
  | nil => rfl
  | cons s rest ih => exact (ih (k.record s)).trans (isSampling_record s k)

/-- Where no samples are wanted, none is kept. -/
theorem recordAll_of_not_sampling {k : Sink} (unwanted : k.isSampling = false) (samples : List Sample) :
    k.recordAll samples = k := by
  induction samples with
  | nil => rfl
  | cons s rest ih => cases k <;> first | exact ih | cases unwanted

theorem recordAll_ring (r : Ring) (samples : List Sample) :
    (Sink.ring r).recordAll samples = .ring (r.recordAll samples) := by
  induction samples generalizing r with
  | nil => rfl
  | cons s rest ih => exact ih (r.record s).1

end Sink

/-! ## One step -/

namespace Loop

/-- What the loop has met so far of the sample of its present job. -/
def bracket (l : Loop) : List Event :=
  match l.spot with
  | .job start => [.clock (.ok start)]
  | .working start => [.clock (.ok start), .answer .startJob (.ok ())]
  | .clockOut start => [.clock (.ok start), .answer .startJob (.ok ()), .jobEnd (.finished (.ok ()))]
  | _ => []

/-- The loop has not brought down its thread, and an end without an error tells the number of jobs. -/
structure Sound (l : Loop) : Prop where
  up : l.spot ≠ .panicked
  count : ∀ n, l.spot = .ended (.ok n) → n = l.jobs

/-- A loop between two jobs, with this sink and so many jobs. -/
structure Between (l : Loop) (sink : Sink) (jobs : Nat) : Prop where
  sink : l.sink = sink
  jobs : l.jobs = jobs
  sound : l.Sound
  /-- No job that is not counted has succeeded. -/
  counted : successes l.bracket = 0
  /-- No sample has been begun. -/
  closed : l.sink.isSampling → l.bracket = []

/-- What events do to a loop: they complete samples, one for each job that is counted; whatever comes
after them, its samples are told with the bracket that they leave open. -/
structure Progress (l : Loop) (events : List Event) (l' : Loop) (completed : List Sample) : Prop where
  sound : l.Sound → l'.Sound
  successes : l'.jobs + successes l'.bracket = l.jobs + successes l.bracket + successes events
  sink : l'.sink = l.sink.recordAll completed
  sampling : l'.sink.isSampling = l.sink.isSampling
  jobs : l.sink.isSampling → l'.jobs = l.jobs + completed.length
  samples : l.sink.isSampling → ∀ rest,
    samplesOf (l.bracket ++ (events ++ rest)) = completed ++ samplesOf (l'.bracket ++ rest)
  offDisk : ∀ e ∈ events, e.isOnDisk = false

variable {l l' l'' : Loop} {events : List Event}

theorem Progress.refl (l : Loop) : l.Progress [] l [] where
  sound h := h
  successes := rfl
  sink := rfl
  sampling := rfl
  jobs _ := rfl
  samples _ _ := rfl
  offDisk e mem := by cases mem

theorem Progress.trans {later : List Event} {first second : List Sample}
    (h : l.Progress events l' first) (h' : l'.Progress later l'' second) :
    l.Progress (events ++ later) l'' (first ++ second) where
  sound start := h'.sound (h.sound start)
  successes := by
    have := h.successes
    have := h'.successes
    rw [successes_append]
    omega
  sink := by rw [h'.sink, h.sink, Sink.recordAll_append]
  sampling := h'.sampling.trans h.sampling
  jobs wanted := by
    rw [h'.jobs (h.sampling.trans wanted), h.jobs wanted, List.length_append, Nat.add_assoc]
  samples wanted rest := by
    rw [List.append_assoc, h.samples wanted, h'.samples (h.sampling.trans wanted), List.append_assoc]
  offDisk e mem := by
    rcases List.mem_append.1 mem with early | late
    · exact h.offDisk e early
    · exact h'.offDisk e late

/-- A step that completes no sample and counts no job. -/
theorem progress_of_same {e : Event} (sink : l'.sink = l.sink) (jobs : l'.jobs = l.jobs)
    (sound : l'.Sound) (count : successes l'.bracket = successes l.bracket + successes [e])
    (samples : l.sink.isSampling → ∀ rest,
      samplesOf (l.bracket ++ e :: rest) = samplesOf (l'.bracket ++ rest))
    (offDisk : e.isOnDisk = false) : l.Progress [e] l' [] where
  sound _ := sound
  successes := by rw [jobs, count, Nat.add_assoc]
  sink := sink
  sampling := by rw [sink]
  jobs _ := jobs
  samples := samples
  offDisk e mem := by
    rw [List.mem_singleton.1 mem]
    exact offDisk

/-- Between two jobs, nothing is completed. -/
theorem Between.progress {e : Event} (before : l.Between l.sink l.jobs) (after : l'.Between l.sink l.jobs)
    (silent : e.isSilent) (offDisk : e.isOnDisk = false) : l.Progress [e] l' [] := by
  refine progress_of_same after.sink after.jobs after.sound ?_ ?_ offDisk
  · rw [before.counted, after.counted, successes_of_silent silent]
    rfl
  · intro wanted rest
    have wanted' : l'.sink.isSampling := by rw [after.sink]; exact wanted
    rw [before.closed wanted, after.closed wanted']
    exact samplesOf_of_silent silent rest

/-- A loop that has begun no sample, and tells no number of jobs unless it is right. -/
theorem between_of_bracket {l : Loop} (closed : l.bracket = []) (sound : l.Sound) :
    l.Between l.sink l.jobs where
  sink := rfl
  jobs := rfl
  sound := sound
  counted := by rw [closed]; rfl
  closed _ := closed

/-- About to do anything but run a job. -/
theorem between_of_spot {l : Loop} {spot : Spot} (closed : { l with spot }.bracket = [])
    (up : spot ≠ .panicked) (going : ∀ n, spot ≠ .ended (.ok n)) :
    Between { l with spot } l.sink l.jobs :=
  between_of_bracket closed { up, count := fun n ended => (going n ended).elim }

theorem fail_between (l : Loop) (e : Error) : (l.fail e).Between l.sink l.jobs :=
  between_of_spot rfl nofun nofun

theorem ended_between (l : Loop) : Between { l with spot := .ended (.ok l.jobs) } l.sink l.jobs :=
  between_of_bracket rfl { up := nofun, count := by intro n same; cases same; rfl }

theorem sleepTo_between (l : Loop) (release : Time) : (l.sleepTo release).Between l.sink l.jobs := by
  unfold sleepTo
  split
  · exact between_of_spot (l := { l with release }) rfl nofun nofun
  · exact between_of_spot (l := { l with release }) rfl nofun nofun

/-- A job without a sample starts without a reading of the clock. -/
theorem toJob_between (l : Loop) : l.toJob.Between l.sink l.jobs := by
  by_cases wanted : l.sink.isSampling
  · have : l.toJob = { l with spot := .clockIn } := by rw [toJob, if_pos wanted]
    rw [this]
    exact between_of_spot rfl nofun nofun
  · have : l.toJob = { l with spot := .job .zero } := by rw [toJob, if_neg wanted]
    rw [this]
    exact {
      sink := rfl
      jobs := rfl
      sound := ⟨nofun, nofun⟩
      counted := rfl
      closed := fun sampling => (wanted sampling).elim }

theorem released_between (l : Loop) : l.released.Between l.sink l.jobs := by
  unfold released
  split
  · exact between_of_spot rfl nofun nofun
  · exact l.toJob_between

theorem again_between (l : Loop) : l.again.Between l.sink l.jobs := by
  unfold again
  split
  · split
    · exact l.sleepTo_between _
    · exact between_of_spot rfl nofun nofun
  · exact between_of_spot rfl nofun nofun

theorem jobDone_between (l : Loop) : l.jobDone.Between l.sink (l.jobs + 1) := by
  unfold jobDone
  by_cases full : Loop.limitReached { l with jobs := l.jobs + 1 }
  · simp only [full, if_true]
    exact ended_between { l with jobs := l.jobs + 1 }
  · simp only [full]
    exact between_of_spot (l := { l with jobs := l.jobs + 1 }) rfl nofun nofun

/-- A job that fails completes nothing. -/
theorem fail_progress {start : Time} (here : l.spot = .working start) (e : Error) :
    l.Progress [.jobEnd (.finished (.error e))] (l.fail e) [] := by
  have bracket : l.bracket = [.clock (.ok start), .answer .startJob (.ok ())] := by rw [Loop.bracket, here]
  refine progress_of_same rfl rfl ⟨nofun, nofun⟩ ?_ ?_ rfl
  · rw [bracket]
    rfl
  · intro _ rest
    rw [bracket]
    exact samplesOf_failure (by intro same; cases same) rest

/-- A job that succeeds is counted at once where no samples are wanted. -/
theorem jobDone_progress {start : Time} (here : l.spot = .working start)
    (unwanted : l.sink.isSampling = false) : l.Progress [.jobEnd (.finished (.ok ()))] l.jobDone [] where
  sound _ := l.jobDone_between.sound
  successes := by
    rw [l.jobDone_between.jobs, l.jobDone_between.counted, Loop.bracket, here]
    rfl
  sink := l.jobDone_between.sink
  sampling := by rw [l.jobDone_between.sink]
  jobs wanted := by rw [unwanted] at wanted; cases wanted
  samples wanted := by rw [unwanted] at wanted; cases wanted
  offDisk e mem := by
    rw [List.mem_singleton.1 mem]
    rfl

/-- The second reading of the clock completes a sample. -/
theorem record_progress {start : Time} (here : l.spot = .clockOut start) (finish : Time) :
    l.Progress [.clock (.ok finish)] (jobDone { l with sink := l.sink.record { start, finish } })
      [{ start, finish }] := by
  have after := jobDone_between { l with sink := l.sink.record { start, finish } }
  have bracket : l.bracket =
      [.clock (.ok start), .answer .startJob (.ok ()), .jobEnd (.finished (.ok ()))] := by
    rw [Loop.bracket, here]
  exact {
    sound := fun _ => after.sound
    successes := by
      rw [after.jobs, after.counted, bracket]
      rfl
    sink := after.sink
    sampling := by rw [after.sink]; exact Sink.isSampling_record _ _
    jobs := fun _ => after.jobs
    samples := fun wanted rest => by
      have wanted' : (jobDone { l with sink := l.sink.record { start, finish } }).sink.isSampling := by
        rw [after.sink]
        exact (Sink.isSampling_record _ _).trans wanted
      rw [bracket, after.closed wanted']
      rfl
    offDisk := by
      intro e mem
      rw [List.mem_singleton.1 mem]
      rfl }

/-- A loop at a spot between two jobs. -/
theorem between_of_here {spot : Spot} (here : l.spot = spot) (closed : { l with spot }.bracket = [])
    (up : spot ≠ .panicked) (going : ∀ n, spot ≠ .ended (.ok n)) : l.Between l.sink l.jobs := by
  subst here
  exact between_of_spot closed up going

/-- **One step of a loop**, whatever it meets. -/
theorem step_progress {e : Event} (meets : l.next.Meets e l') (orderly : e.Orderly) :
    ∃ completed, l.Progress [e] l' completed := by
  cases here : l.spot with
  | sleep =>
    rw [Loop.next, here] at meets
    cases meets with
    | ask _ _ outcome =>
      refine ⟨[], (between_of_here here rfl nofun nofun).progress ?_ rfl rfl⟩
      cases outcome with
      | ok => exact l.released_between
      | error e => exact l.fail_between e
  | enter =>
    rw [Loop.next, here] at meets
    cases meets
    exact ⟨[], (between_of_here here rfl nofun nofun).progress l.toJob_between rfl rfl⟩
  | raise =>
    rw [Loop.next, here] at meets
    cases meets
    exact ⟨[], (between_of_here here rfl nofun nofun).progress (between_of_spot rfl nofun nofun) rfl rfl⟩
  | look =>
    rw [Loop.next, here] at meets
    cases meets with
    | access _ found =>
      have after (stop : Bool) :
          Between { l with spot := if stop then .retreat else .wait } l.sink l.jobs := by
        cases stop with
        | true => exact between_of_spot rfl nofun nofun
        | false => exact between_of_spot rfl nofun nofun
      exact ⟨[], (between_of_here here rfl nofun nofun).progress (after found.stopped) rfl rfl⟩
  | retreat =>
    rw [Loop.next, here] at meets
    cases meets
    exact ⟨[], (between_of_here here rfl nofun nofun).progress l.ended_between rfl rfl⟩
  | wait =>
    rw [Loop.next, here] at meets
    cases meets
    exact ⟨[], (between_of_here here rfl nofun nofun).progress (between_of_spot rfl nofun nofun) rfl rfl⟩
  | lower outcome =>
    rw [Loop.next, here] at meets
    cases meets
    refine ⟨[], (between_of_here here rfl nofun nofun).progress ?_ rfl rfl⟩
    match outcome with
    | .ok .released => exact l.released_between
    | .ok .cancelled => exact l.ended_between
    | .error e => exact l.fail_between e
  | clockIn =>
    rw [Loop.next, here] at meets
    cases meets with
    | readClock _ now =>
      -- The bracket opens; it closes at `clockOut`, or the job fails and what it holds is no sample.
      obtain ⟨start, rfl, -⟩ := orderly
      have bracket : l.bracket = [] := by rw [Loop.bracket, here]
      refine ⟨[], progress_of_same rfl rfl ⟨nofun, nofun⟩ ?_ ?_ rfl⟩
      · rw [bracket]
        rfl
      · intro _ rest
        rw [bracket]
        rfl
  | job start =>
    rw [Loop.next, here] at meets
    cases meets with
    | ask _ _ outcome =>
      have bracket : l.bracket = [.clock (.ok start)] := by rw [Loop.bracket, here]
      refine ⟨[], progress_of_same rfl rfl ⟨nofun, nofun⟩ ?_ ?_ rfl⟩
      · rw [bracket]
        rfl
      · intro _ rest
        rw [bracket]
        exact samplesOf_startJob _ _ _ _
  | working start =>
    rw [Loop.next, here] at meets
    cases meets with
    | finishJob _ outcome =>
      match outcome with
      | .finished (.error e) => exact ⟨[], fail_progress here e⟩
      | .panicked => exact (orderly rfl).elim
      | .finished (.ok ()) =>
        show ∃ completed, l.Progress _ (if l.sink.isSampling then _ else _) completed
        by_cases wanted : l.sink.isSampling
        · rw [if_pos wanted]
          have bracket : l.bracket = [.clock (.ok start), .answer .startJob (.ok ())] := by
            rw [Loop.bracket, here]
          refine ⟨[], progress_of_same rfl rfl ⟨nofun, nofun⟩ ?_ ?_ rfl⟩
          · rw [bracket]
            rfl
          · intro _ rest
            rw [bracket]
            rfl
        · rw [if_neg wanted]
          exact ⟨[], jobDone_progress here (by simpa using wanted)⟩
  | clockOut start =>
    rw [Loop.next, here] at meets
    cases meets with
    | readClock _ now =>
      obtain ⟨finish, rfl, -⟩ := orderly
      exact ⟨_, record_progress here finish⟩
  | check =>
    rw [Loop.next, here] at meets
    cases meets with
    | access _ found =>
      refine ⟨[], (between_of_here here rfl nofun nofun).progress ?_ rfl rfl⟩
      show Loop.Between (if found.stopped then _ else _) _ _
      split
      · exact l.ended_between
      · exact l.again_between
  | ended outcome => rw [Loop.next, here] at meets; cases meets
  | panicked => rw [Loop.next, here] at meets; cases meets

/-- **A whole run of a loop.** -/
theorem run_progress (run : Run Loop.next l events l') (orderly : ∀ e ∈ events, e.Orderly) :
    ∃ completed, l.Progress events l' completed := by
  induction run with
  | nil l => exact ⟨[], .refl l⟩
  | cons meets _ ih =>
    obtain ⟨first, now⟩ := step_progress meets (orderly _ List.mem_cons_self)
    obtain ⟨second, later⟩ := ih fun e mem => orderly e (List.mem_cons_of_mem _ mem)
    exact ⟨first ++ second, now.trans later⟩

/-- What a run of a loop has done when the loop is over. -/
structure Completed (l : Loop) (sink : Sink) (events : List Event) : Prop where
  up : l.spot ≠ .panicked
  recorded : l.sink = sink.recordAll (samplesOf events)
  /-- One sample for each job that succeeds. -/
  samples : sink.isSampling → (samplesOf events).length = successes events
  count : ∀ n, l.spot = .ended (.ok n) → n = successes events
  offDisk : ∀ e ∈ events, e.isOnDisk = false

/-- **A loop from its start to its end.** -/
theorem run_to_end {sink : Sink} (run : Run Loop.next l events l') (orderly : ∀ e ∈ events, e.Orderly)
    (start : l.Between sink 0) (idle : l'.next = .idle) : l'.Completed sink events := by
  obtain ⟨completed, progress⟩ := run_progress run orderly
  have sound := progress.sound start.sound
  have closed : l'.bracket = [] := by
    unfold Loop.bracket
    split
    · rename_i here; rw [Loop.next, here] at idle; cases idle
    · rename_i here; rw [Loop.next, here] at idle; cases idle
    · rename_i here; rw [Loop.next, here] at idle; cases idle
    · rfl
  have jobs : l'.jobs = successes events := by
    have all := progress.successes
    rw [start.jobs, start.counted, closed] at all
    exact all.trans (Nat.zero_add _)
  -- No bracket is open at either end, so the samples of the run are those that it completed.
  have told : l.sink.isSampling → samplesOf events = completed := by
    intro wanted
    have all := progress.samples wanted []
    rw [start.closed wanted, closed, List.append_nil] at all
    exact all.trans (List.append_nil _)
  refine { up := sound.up, recorded := ?_, samples := ?_, count := ?_, offDisk := progress.offDisk }
  · rw [progress.sink, start.sink]
    by_cases wanted : sink.isSampling
    · rw [told (by rw [start.sink]; exact wanted)]
    · have unwanted : sink.isSampling = false := by simpa using wanted
      rw [Sink.recordAll_of_not_sampling unwanted, Sink.recordAll_of_not_sampling unwanted]
  · rw [← start.sink]
    intro wanted
    have all := progress.jobs wanted
    rw [start.jobs, Nat.zero_add, jobs] at all
    rw [told wanted, all]
  · intro n here
    rw [sound.count n here, jobs]

end Loop

end TaskTiming
