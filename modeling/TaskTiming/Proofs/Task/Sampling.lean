import Mathlib.Logic.Relation
import TaskTiming.Proofs.Task.LoopRun
import TaskTiming.Proofs.Task.Steps

/-!
# Loops with and without samples

A loop with a sink does what it would do without one, and reads the clock besides. To each place of a loop
belongs one that it would be at without its sink (`Loop.quiet`): a reading of the clock that works keeps it
there, and any other step is the same step there (`Loop.next_quiet`). So in one setting, which answers
everything but the clock by what has happened apart from the clock, both loops ask for the same things, find
the same answers, leave the job the same state and come to the same end (`samples_change_nothing`).
-/

namespace TaskTiming
set_option autoImplicit false

/-! ## Events apart from the clock -/

/-- The clock is read. -/
def Event.isClock : Event → Bool
  | .clock _ => true
  | _ => false

/-- What has happened apart from readings of the clock. -/
def happened (events : List Event) : List Event := events.filter fun e => !e.isClock

theorem happened_happened (events : List Event) : happened (happened events) = happened events := by
  rw [happened, happened, List.filter_filter]
  simp only [Bool.and_self]

theorem happened_snoc_clock (events : List Event) (now : Result Time) :
    happened (events ++ [.clock now]) = happened events := by
  rw [happened, List.filter_append]
  exact List.append_nil _

theorem happened_snoc {e : Event} (other : e.isClock = false) (events : List Event) :
    happened (events ++ [e]) = happened events ++ [e] := by
  have kept : [e].filter (fun e => !e.isClock) = [e] := List.filter_cons_of_pos (by rw [other]; rfl)
  rw [happened, List.filter_append, kept]
  rfl

/-- A reading of the clock starts no job. -/
theorem starts_happened (events : List Event) : starts (happened events) = starts events := by
  rw [starts, happened, List.countP_filter]
  apply List.countP_congr
  intro e _
  cases e with
  | clock now => simp [Event.isStart]
  | _ => simp [Event.isClock]

/-! ## The place without a sink -/

namespace Loop

variable {l l' : Loop}

/-- The loop at the same place without its sink. -/
def bare (l : Loop) : Loop := { l with sink := .none }

/-- The place of the loop without its sink: what it does next besides reading the clock. -/
def quiet (l : Loop) : Loop :=
  match l.spot with
  | .clockIn => { l.bare with spot := .job .zero }
  | .job _ => { l.bare with spot := .job .zero }
  | .working _ => { l.bare with spot := .working .zero }
  | .clockOut _ => l.bare.jobDone
  | _ => l.bare

/-- The loop does not read the clock next. -/
def Awake (l : Loop) : Prop := ∀ k, l.next ≠ .readClock k

theorem quiet_toJob (l : Loop) : l.toJob.quiet = l.bare.toJob := by
  unfold toJob
  cases l.sink.isSampling <;> rfl

theorem quiet_released (l : Loop) : l.released.quiet = l.bare.released := by
  unfold released
  by_cases first : l.jobs = 0
  · rw [if_pos first]
    exact (if_pos first).symm
  · rw [if_neg first]
    exact (quiet_toJob l).trans (if_neg first).symm

theorem quiet_jobDone (l : Loop) : l.jobDone.quiet = l.bare.jobDone := by
  obtain ⟨pace, maxJobs, sink, jobs, release, spot⟩ := l
  -- What the limit is compared with does not depend on the sink.
  show quiet ⟨pace, maxJobs, sink, jobs + 1, release,
      if limitReached ⟨pace, maxJobs, .none, jobs + 1, release, spot⟩ then .ended (.ok (jobs + 1)) else .check⟩ =
    ⟨pace, maxJobs, .none, jobs + 1, release,
      if limitReached ⟨pace, maxJobs, .none, jobs + 1, release, spot⟩ then .ended (.ok (jobs + 1)) else .check⟩
  cases limitReached ⟨pace, maxJobs, .none, jobs + 1, release, spot⟩ <;> rfl

theorem quiet_sleepTo (l : Loop) (release : Time) : (l.sleepTo release).quiet = l.bare.sleepTo release := by
  unfold sleepTo
  cases sleepTarget release <;> rfl

theorem quiet_again (l : Loop) : l.again.quiet = l.bare.again := by
  obtain ⟨pace, maxJobs, sink, jobs, release, spot⟩ := l
  cases pace with
  | aperiodic => rfl
  | periodic period =>
    unfold again
    dsimp only [bare]
    cases release.add? period with
    | ok next => exact quiet_sleepTo _ next
    | error e => rfl

/-- **Without a sink, the next step is the same** where it is no reading of the clock. -/
theorem next_quiet (awake : l.Awake) : l.quiet.next = l.next.map quiet := by
  obtain ⟨pace, maxJobs, sink, jobs, release, spot⟩ := l
  cases spot with
  | sleep =>
    apply congrArg (Action.ask _)
    funext outcome
    cases outcome with
    | ok => exact (quiet_released _).symm
    | error e => rfl
  | enter =>
    apply congrArg Action.access
    funext found
    exact Prod.ext (quiet_toJob _).symm rfl
  | raise => rfl
  | look =>
    apply congrArg Action.access
    funext found
    refine Prod.ext ?_ rfl
    show Loop.mk _ _ _ _ _ (if found.stopped then _ else _) = quiet ⟨_, _, _, _, _, if found.stopped then _ else _⟩
    cases found.stopped <;> rfl
  | retreat => rfl
  | wait => rfl
  | lower outcome =>
    apply congrArg Action.access
    funext found
    refine Prod.ext ?_ rfl
    match outcome with
    | .ok .released => exact (quiet_released _).symm
    | .ok .cancelled => rfl
    | .error e => rfl
  | clockIn => exact absurd rfl (awake _)
  | job start => rfl
  | working start =>
    apply congrArg Action.finishJob
    funext outcome
    match outcome with
    | .finished (.ok ()) =>
      show jobDone _ = quiet (if sink.isSampling then _ else _)
      cases sink.isSampling with
      | true => rfl
      | false => exact (quiet_jobDone _).symm
    | .finished (.error e) => rfl
    | .panicked => rfl
  | clockOut start => exact absurd rfl (awake _)
  | check =>
    apply congrArg Action.access
    funext found
    refine Prod.ext ?_ rfl
    show (if found.stopped then _ else again _) = quiet (if found.stopped then _ else again _)
    cases found.stopped with
    | true => rfl
    | false => exact (quiet_again _).symm
  | ended outcome => rfl
  | panicked => rfl

/-- A reading of the clock that works changes nothing else. -/
theorem quiet_of_clock {now : Time} (meets : l.next.Meets (.clock (.ok now)) l') : l'.quiet = l.quiet := by
  cases did_of_meets meets with
  | clockedIn here =>
    rw [quiet, quiet, here]
    rfl
  | clockedOut here =>
    rw [quiet_jobDone, quiet, here]
    rfl

/-- A loop that meets something else than a reading of the clock does not read it. -/
theorem awake_of_meets {e : Event} (meets : l.next.Meets e l') (other : e.isClock = false) : l.Awake := by
  intro k reading
  rw [reading] at meets
  cases meets
  cases other

theorem not_clock_of_awake {e : Event} (awake : l.Awake) (meets : l.next.Meets e l') : e.isClock = false := by
  unfold Awake at awake
  generalize l.next = a at awake meets
  cases meets with
  | readClock k => exact absurd rfl (awake k)
  | _ => rfl

/-- Behind a job, the clock is not read. -/
theorem awake_jobDone (l : Loop) : l.jobDone.Awake := by
  unfold jobDone
  dsimp only
  cases limitReached { l with jobs := l.jobs + 1 } <;> exact nofun

/-- A loop that has read the clock does not read it again at once. -/
theorem awake_of_clock {now : Time} (meets : l.next.Meets (.clock (.ok now)) l') : l'.Awake := by
  cases did_of_meets meets with
  | clockedIn here => exact nofun
  | clockedOut here => exact awake_jobDone _

/-- A loop that is over is where it would be without its sink. -/
theorem quiet_of_idle (idle : l.next = .idle) : l.quiet = l.bare := by
  unfold quiet
  split
  · rename_i here
    rw [next, here] at idle
    cases idle
  · rename_i here
    rw [next, here] at idle
    cases idle
  · rename_i here
    rw [next, here] at idle
    cases idle
  · rename_i here
    rw [next, here] at idle
    cases idle
  · rfl

/-- What a loop does with its sink: nothing, or it puts one sample into it for a job that it counts. -/
theorem sink_of_did {e : Event} (did : l.Did e l') :
    (l'.sink = l.sink ∧ (l.sink.isSampling → l'.jobs = l.jobs)) ∨
      ∃ s, l'.sink = l.sink.record s ∧ l'.jobs = l.jobs + 1 := by
  cases did with
  | slept => exact .inl ⟨l.released_between.sink, fun _ => l.released_between.jobs⟩
  | entered => exact .inl ⟨l.toJob_between.sink, fun _ => l.toJob_between.jobs⟩
  | released => exact .inl ⟨l.released_between.sink, fun _ => l.released_between.jobs⟩
  | wentOn => exact .inl ⟨l.again_between.sink, fun _ => l.again_between.jobs⟩
  | counted _ unwanted =>
    refine .inl ⟨l.jobDone_between.sink, ?_⟩
    intro wanted
    rw [unwanted] at wanted
    cases wanted
  | clockedOut =>
    exact .inr ⟨_, (jobDone_between _).sink, (jobDone_between _).jobs⟩
  | _ => exact .inl ⟨rfl, fun _ => rfl⟩

end Loop

/-! ## Settings -/

/-- What a loop runs in, but for its sink: a job with a state of its own, and what is found and answered by what
has happened so far. The readings of the clock are not part of what happened, but each of them may depend on
those before. -/
structure Setting (β : Type) where
  job : β → JobEnd × β
  clock : List Event → Time
  control : List Event → Control
  answer : List Event → Request → Result Unit
  release : List Event → Result WaitOutcome

/-- What there is in the course of a run. -/
structure Scene (β : Type) where
  events : List Event
  loop : Loop
  /-- What the job has become. -/
  job : β

namespace Setting

variable {β : Type} {w : Setting β} {s t u : Scene β}

/-- What a setting gives next, and what that makes of the job. -/
inductive Gives (w : Setting β) (s : Scene β) : Event → β → Prop
  | access (left : Control) : Gives w s (.access (w.control (happened s.events)) left) s.job
  | answer (r : Request) : Gives w s (.answer r (w.answer (happened s.events) r)) s.job
  | clock : Gives w s (.clock (.ok (w.clock s.events))) s.job
  | jobEnd : Gives w s (.jobEnd (w.job s.job).1) (w.job s.job).2
  | waitEnd : Gives w s (.waitEnd (w.release (happened s.events))) s.job

/-- A loop takes a step in a setting. -/
inductive Step (w : Setting β) (s : Scene β) : Scene β → Prop
  | meet {e : Event} {l : Loop} {job : β} (meets : s.loop.next.Meets e l) (gives : w.Gives s e job) :
      Step w s { events := s.events ++ [e], loop := l, job }

/-- A run comes from one scene to another. -/
def Reaches (w : Setting β) : Scene β → Scene β → Prop := Relation.ReflTransGen w.Step

/-- While a loop is not over, its setting lets it go on. -/
theorem step_of_busy (w : Setting β) (busy : s.loop.next ≠ .idle) : ∃ t, w.Step s t := by
  have given : ∃ e l job, s.loop.next.Meets e l ∧ w.Gives s e job := by
    cases step : s.loop.next with
    | idle => exact absurd step busy
    | access effect => exact ⟨_, _, _, .access effect _, .access _⟩
    | ask request next => exact ⟨_, _, _, .ask request next _, .answer request⟩
    | readClock next => exact ⟨_, _, _, .readClock next _, .clock⟩
    | finishJob next => exact ⟨_, _, _, .finishJob next _, .jobEnd⟩
    | awaitRelease next => exact ⟨_, _, _, .awaitRelease next _, .waitEnd⟩
  obtain ⟨e, l, job, meets, gives⟩ := given
  exact ⟨_, .meet meets gives⟩

/-- There is one way on. -/
theorem step_unique (step : w.Step s t) (other : w.Step s u) : t = u := by
  obtain ⟨meets, gives⟩ := step
  obtain ⟨meets', gives'⟩ := other
  generalize s.loop.next = a at meets meets'
  cases meets <;> cases gives <;> cases meets' <;> cases gives' <;> rfl

end Setting

namespace Scene

variable {β : Type} {w : Setting β} {s t u : Scene β}

/-- The scene that there is without the sink of the loop. -/
def quiet (s : Scene β) : Scene β := { events := happened s.events, loop := s.loop.quiet, job := s.job }

/-- What a setting gives depends on what happened apart from the clock. -/
theorem gives_quiet {e : Event} {job : β} (other : e.isClock = false) : w.Gives s.quiet e job ↔ w.Gives s e job := by
  have same : happened s.quiet.events = happened s.events := happened_happened s.events
  have past {a b : Scene β} (alike : happened a.events = happened b.events) (kept : a.job = b.job)
      (gives : w.Gives a e job) : w.Gives b e job := by
    cases gives with
    | access left =>
      rw [alike, kept]
      exact .access left
    | answer r =>
      rw [alike, kept]
      exact .answer r
    | clock => cases other
    | jobEnd =>
      rw [kept]
      exact .jobEnd
    | waitEnd =>
      rw [alike, kept]
      exact .waitEnd
  exact ⟨past same rfl, past same.symm rfl⟩

/-- A step with the sink is one without, or reads the clock. -/
theorem step_quiet (step : w.Step s t) : t.quiet = s.quiet ∨ w.Step s.quiet t.quiet := by
  obtain ⟨meets, gives⟩ := step
  rename_i e l job
  cases kind : e.isClock with
  | true =>
    cases gives with
    | clock =>
      left
      unfold quiet
      rw [happened_snoc_clock, Loop.quiet_of_clock meets]
    | _ => cases kind
  | false =>
    right
    have meets' : s.quiet.loop.next.Meets e l.quiet := by
      have plain := meets.map Loop.quiet
      rw [← Loop.next_quiet (Loop.awake_of_meets meets kind)] at plain
      exact plain
    have step := Setting.Step.meet meets' ((gives_quiet kind).2 gives)
    show w.Step s.quiet ⟨happened (s.events ++ [e]), l.quiet, job⟩
    rw [happened_snoc kind]
    exact step

/-- A run with the sink is one without. -/
theorem reaches_quiet (reaches : w.Reaches s t) : w.Reaches s.quiet t.quiet := by
  induction reaches with
  | refl => exact .refl
  | tail _ step ih =>
    rcases step_quiet step with same | step
    · rw [same]
      exact ih
    · exact ih.tail step

/-- Where the clock is not read, a step without the sink is one with it. -/
theorem step_of_quiet (awake : s.loop.Awake) (step : w.Step s.quiet u) : ∃ t, w.Step s t ∧ t.quiet = u := by
  obtain ⟨meets, gives⟩ := step
  rename_i e m job
  change s.loop.quiet.next.Meets e m at meets
  rw [Loop.next_quiet awake] at meets
  obtain ⟨l, met, rfl⟩ := Action.meets_map meets
  have other := Loop.not_clock_of_awake awake met
  refine ⟨_, .meet met ((gives_quiet other).1 gives), ?_⟩
  show Scene.mk (happened (s.events ++ [e])) l.quiet job = _
  rw [happened_snoc other]
  rfl

/-- What the clock is read for next is read. -/
theorem reaches_awake (w : Setting β) (s : Scene β) :
    ∃ t, w.Reaches s t ∧ t.quiet = s.quiet ∧ t.loop.Awake := by
  by_cases awake : s.loop.Awake
  · exact ⟨s, .refl, rfl, awake⟩
  · obtain ⟨k, reading⟩ : ∃ k, s.loop.next = .readClock k :=
      Classical.byContradiction fun none => awake fun k reading => none ⟨k, reading⟩
    have meets : s.loop.next.Meets (.clock (.ok (w.clock s.events))) (k (.ok (w.clock s.events))) := by
      rw [reading]
      exact .readClock k _
    refine ⟨_, .single (.meet meets .clock), ?_, Loop.awake_of_clock meets⟩
    show Scene.mk (happened (s.events ++ [_])) (k _).quiet s.job = _
    rw [happened_snoc_clock, Loop.quiet_of_clock meets]
    rfl

/-- A run without the sink is one with it, the clock read wherever it can be. -/
theorem reaches_of_quiet (reaches : w.Reaches s.quiet u) :
    ∃ t, w.Reaches s t ∧ t.quiet = u ∧ t.loop.Awake := by
  induction reaches with
  | refl => exact reaches_awake w s
  | tail _ step ih =>
    obtain ⟨t, reached, rfl, awake⟩ := ih
    obtain ⟨t', met, rfl⟩ := step_of_quiet awake step
    obtain ⟨t'', later, same, awake⟩ := reaches_awake w t'
    exact ⟨t'', (reached.tail met).trans later, same, awake⟩

end Scene

/-! ## Two runs -/

/-- Which of the two loops runs. -/
inductive Course
  | periodic (first period : Time)
  | aperiodic

namespace Course

/-- The loop at its start. -/
def loop (maxJobs : Option UInt64) (sink : Sink) : Course → Loop
  | .periodic first period => .periodic first period maxJobs sink
  | .aperiodic => .aperiodic maxJobs sink

theorem quiet_loop (c : Course) (maxJobs : Option UInt64) (sink : Sink) :
    (c.loop maxJobs sink).quiet = c.loop maxJobs .none := by
  cases c with
  | periodic first period => exact Loop.quiet_sleepTo _ first
  | aperiodic => rfl

theorem sink_loop (c : Course) (maxJobs : Option UInt64) (sink : Sink) :
    (c.loop maxJobs sink).sink = sink ∧ (c.loop maxJobs sink).jobs = 0 := by
  cases c with
  | periodic first period => exact ⟨(Loop.sleepTo_between _ first).sink, (Loop.sleepTo_between _ first).jobs⟩
  | aperiodic => exact ⟨rfl, rfl⟩

/-- The scene at the start, with a job as it is then. -/
def start {β : Type} (c : Course) (maxJobs : Option UInt64) (sink : Sink) (job : β) : Scene β :=
  { events := [], loop := c.loop maxJobs sink, job }

end Course

section Runs

variable {β : Type} {w : Setting β} {s t u : Scene β}

/-- A sink holds the samples of the jobs that are counted, and nothing else. -/
def Scene.Sampled (sink : Sink) (s : Scene β) : Prop :=
  ∃ samples, s.loop.sink = sink.recordAll samples ∧ (sink.isSampling → samples.length = s.loop.jobs)

theorem sampled_of_reaches {sink : Sink} (start : s.Sampled sink) (reaches : w.Reaches s t) : t.Sampled sink := by
  induction reaches with
  | refl => exact start
  | tail _ step ih =>
    obtain ⟨samples, held, counted⟩ := ih
    obtain ⟨meets, -⟩ := step
    rcases Loop.sink_of_did (Loop.did_of_meets meets) with ⟨kept, same⟩ | ⟨new, recorded, more⟩
    · refine ⟨samples, kept.trans held, ?_⟩
      intro wanted
      have sampling : Sink.isSampling (sink.recordAll samples) = true :=
        (Sink.isSampling_recordAll sink samples).trans wanted
      rw [counted wanted, same (by rw [held]; exact sampling)]
    · refine ⟨samples ++ [new], ?_, ?_⟩
      · rw [recorded, held, Sink.recordAll_append]
        rfl
      · intro wanted
        rw [List.length_append, counted wanted, more]
        rfl

/-- Nothing follows where nothing is left to do. -/
theorem Setting.eq_of_idle (idle : s.loop.next = .idle) (reaches : w.Reaches s t) : t = s := by
  rcases Relation.ReflTransGen.cases_head reaches with same | ⟨u, step, -⟩
  · exact same.symm
  · obtain ⟨meets, -⟩ := step
    rw [idle] at meets
    cases meets

/-- A run ends in one way. -/
theorem Setting.end_unique (first : w.Reaches s t) (second : w.Reaches s u) (idle : t.loop.next = .idle)
    (idle' : u.loop.next = .idle) : t = u := by
  have functional : Relator.RightUnique w.Step := fun _ _ _ step other => step_unique step other
  rcases Relation.ReflTransGen.total_of_right_unique functional first second with later | later
  · exact (eq_of_idle idle later).symm
  · exact eq_of_idle idle' later

/-- Two scenes in which the same has happened apart from the clock, and the job has become the same. -/
structure Scene.Matches (s u : Scene β) : Prop where
  events : happened s.events = happened u.events
  starts : starts s.events = starts u.events
  job : s.job = u.job

/-- Both are at their end, with the same number of jobs or the same error. -/
structure Scene.EndsLike (s u : Scene β) : Prop where
  idle : s.loop.next = .idle ∧ u.loop.next = .idle
  spot : s.loop.spot = u.loop.spot
  jobs : s.loop.jobs = u.loop.jobs

theorem matches_quiet (s : Scene β) : s.Matches s.quiet where
  events := (happened_happened s.events).symm
  starts := (starts_happened s.events).symm
  job := rfl

theorem endsLike_quiet (idle : s.loop.next = .idle) : s.EndsLike s.quiet := by
  have same : s.quiet.loop = s.loop.bare := Loop.quiet_of_idle idle
  have still : s.quiet.loop.next = .idle := by
    have awake : s.loop.Awake := by
      intro k reading
      rw [idle] at reading
      cases reading
    show s.loop.quiet.next = _
    rw [Loop.next_quiet awake, idle]
    rfl
  exact { idle := ⟨idle, still⟩, spot := by rw [same]; rfl, jobs := by rw [same]; rfl }

/-- Runs from two scenes differ in nothing but the samples. -/
structure Setting.Alike (w : Setting β) (s₀ u₀ : Scene β) : Prop where
  there : ∀ s, w.Reaches s₀ s → ∃ u, w.Reaches u₀ u ∧ s.Matches u ∧ (s.loop.next = .idle → s.EndsLike u)
  back : ∀ u, w.Reaches u₀ u → ∃ s, w.Reaches s₀ s ∧ s.Matches u ∧ (u.loop.next = .idle → s.EndsLike u)
  ends : ∀ s u, w.Reaches s₀ s → w.Reaches u₀ u → s.loop.next = .idle → u.loop.next = .idle →
    s.Matches u ∧ s.EndsLike u

/-- Any run is like the one without its sink. -/
theorem alike_quiet (w : Setting β) (s₀ : Scene β) : w.Alike s₀ s₀.quiet where
  there := by
    intro s reaches
    exact ⟨s.quiet, Scene.reaches_quiet reaches, matches_quiet s, endsLike_quiet⟩
  back := by
    intro u reaches
    obtain ⟨s, reached, rfl, awake⟩ := Scene.reaches_of_quiet reaches
    refine ⟨s, reached, matches_quiet s, ?_⟩
    intro idle
    change s.loop.quiet.next = .idle at idle
    rw [Loop.next_quiet awake] at idle
    exact endsLike_quiet (Action.map_eq_idle idle)
  ends := by
    intro s u first second idle idle'
    have like := endsLike_quiet idle
    have same := Setting.end_unique (Scene.reaches_quiet first) second like.idle.2 idle'
    rw [← same]
    exact ⟨matches_quiet s, like⟩

/-- **Samples change nothing but themselves.** In any setting, a loop with a sink asks for the same and is
answered the same as without one, apart from readings of the clock, starts as many jobs, leaves the job in the
same state, and comes to the same end, neither of them held up before; and its sink holds the samples of the
jobs it counts. -/
theorem samples_change_nothing (w : Setting β) (c : Course) (maxJobs : Option UInt64) (sink : Sink) (job : β) :
    w.Alike (c.start maxJobs sink job) (c.start maxJobs .none job) ∧
      (∀ s : Scene β, s.loop.next ≠ .idle → ∃ t, w.Step s t) ∧
      ∀ s, w.Reaches (c.start maxJobs sink job) s → s.Sampled sink := by
  have bare : (c.start maxJobs sink job).quiet = c.start maxJobs .none job := by
    show Scene.mk (happened []) (c.loop maxJobs sink).quiet job = _
    rw [c.quiet_loop]
    rfl
  refine ⟨?_, fun s => Setting.step_of_busy w, ?_⟩
  · rw [← bare]
    exact alike_quiet w _
  · intro s reaches
    obtain ⟨empty, none⟩ := c.sink_loop maxJobs sink
    apply sampled_of_reaches _ reaches
    exact ⟨[], empty, fun _ => none.symm⟩

end Runs

end TaskTiming
