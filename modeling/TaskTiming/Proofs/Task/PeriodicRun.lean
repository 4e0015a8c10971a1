import TaskTiming.Proofs.Task.LoopRun
import TaskTiming.Proofs.Task.Steps

/-!
# Runs of a periodic loop

A periodic loop sleeps to first, first + period, first + 2 * period and so on, whatever its jobs and the
clock do, and ends at its limit, at a stop seen behind a job, with a job's error, or where the next instant
is none (`periodic_keeps_its_instants`). What is known of a loop in its round is a table over the places
where it may stand (`Loop.Spot.stage?`); the invariant `Underway` reads it, and each step moves on in it.
-/

namespace TaskTiming
set_option autoImplicit false

/-! ## What a run tells -/

/-- The instant that is slept to. -/
def Event.sleep? : Event → Option Time
  | .answer (.sleepUntil instant) _ => some instant
  | _ => none

/-- The instants that are slept to, in order. -/
def sleeps (events : List Event) : List Time := events.filterMap Event.sleep?

theorem sleeps_snoc (events : List Event) (e : Event) :
    sleeps (events ++ [e]) = sleeps events ++ e.sleep?.toList := by
  cases sleep : e.sleep? <;> simp [sleeps, sleep]

/-- How a job ended, and whether a stop was seen behind it, if it was looked for. -/
structure Round where
  finish : JobEnd
  stop : Option Bool

namespace Round

/-- The job succeeded and no stop was seen. -/
def passed : Round := { finish := .finished (.ok ()), stop := some false }

/-- The job succeeded. -/
def succeeded : Round := { finish := .finished (.ok ()), stop := none }

/-- What an event tells: a job's end begins a round, and the control found after that belongs to it. -/
def told (rounds : List Round) : Event → List Round
  | .jobEnd finish => rounds ++ [{ finish, stop := none }]
  | .access found _ => rounds.dropLast ++ rounds.getLast?.toList.map ({ · with stop := some found.stopped })
  | _ => rounds

end Round

/-- The rounds of a run, in order. -/
def rounds (events : List Event) : List Round := events.foldl Round.told []

theorem rounds_snoc (events : List Event) (e : Event) : rounds (events ++ [e]) = Round.told (rounds events) e := by
  simp [rounds]

/-- So many instants from the first one on, each a period after the one before. -/
def instants (first period : Time) (n : Nat) : List Nat :=
  (List.range n).map fun i => first.toNanos + i * period.toNanos

theorem instants_succ (first period : Time) (n : Nat) :
    instants first period (n + 1) = instants first period n ++ [first.toNanos + n * period.toNanos] := by
  simp [instants, List.range_succ]

@[simp] theorem length_instants (first period : Time) (n : Nat) : (instants first period n).length = n := by
  simp [instants]

/-- The instant at a position is the first one and as many periods. -/
theorem getElem?_instants {first period : Time} {n i nanos : Nat}
    (here : (instants first period n)[i]? = some nanos) :
    first.toNanos + i * period.toNanos = nanos := by
  obtain ⟨inside, there⟩ := List.getElem?_eq_some_iff.1 here
  simpa [instants] using there

/-- So many jobs are as many as there may be. -/
def LimitAt (maxJobs : Option UInt64) (n : Nat) : Prop := ∃ max, maxJobs = some max ∧ max.toNat ≤ n

theorem LimitAt.mono {maxJobs : Option UInt64} {k n : Nat} (limit : LimitAt maxJobs k) (le : k ≤ n) :
    LimitAt maxJobs n := by
  obtain ⟨max, given, few⟩ := limit
  exact ⟨max, given, by omega⟩

theorem Loop.limitReached_iff (l : Loop) : l.limitReached = true ↔ LimitAt l.maxJobs l.jobs := by
  unfold Loop.limitReached LimitAt
  cases l.maxJobs <;> simp

/-- The system can sleep to an instant below so many nanoseconds. -/
def Time.nativeEnd : Nat := nanosPerSec * 2 ^ 63

theorem Time.fitsNative_iff (t : Time) : t.FitsNative ↔ t.toNanos < Time.nativeEnd := by
  have below := t.nsec_lt
  unfold Time.FitsNative Time.toNanos Time.nativeEnd Time.nanosPerSec
  constructor
  · intro fits
    omega
  · intro early
    omega

/-! ## Rounds -/

/-- What a place in a loop says about the round that the loop is in. -/
structure Stage where
  /-- The steps from the beginning of the round, at most. -/
  order : Nat
  slept : Nat
  started : Nat
  counted : Nat
  begun : List Round

namespace Loop

/-- The stages of a periodic loop. -/
def Spot.stage? : Loop.Spot → Option Stage
  | .sleep => some { order := 0, slept := 0, started := 0, counted := 0, begun := [] }
  | .enter => some { order := 1, slept := 1, started := 0, counted := 0, begun := [] }
  | .clockIn => some { order := 2, slept := 1, started := 0, counted := 0, begun := [] }
  | .job _ => some { order := 3, slept := 1, started := 0, counted := 0, begun := [] }
  | .working _ => some { order := 4, slept := 1, started := 1, counted := 0, begun := [] }
  | .clockOut _ => some { order := 5, slept := 1, started := 1, counted := 0, begun := [.succeeded] }
  | .check => some { order := 6, slept := 1, started := 1, counted := 1, begun := [.succeeded] }
  | _ => none

theorem toJob_eq (l : Loop) : l.toJob = { l with spot := l.toJob.spot } := rfl

theorem released_eq (l : Loop) : l.released = { l with spot := l.released.spot } := by
  unfold released
  split <;> rfl

theorem spot_jobDone_of_limit {l : Loop} (limit : LimitAt l.maxJobs (l.jobs + 1)) :
    l.jobDone.spot = .ended (.ok (l.jobs + 1)) := by
  have full : limitReached { l with jobs := l.jobs + 1 } = true := (limitReached_iff _).2 limit
  simp [jobDone, full]

theorem spot_jobDone_of_room {l : Loop} (room : ¬LimitAt l.maxJobs (l.jobs + 1)) : l.jobDone.spot = .check := by
  have going : limitReached { l with jobs := l.jobs + 1 } = false := by
    rw [Bool.eq_false_iff, ne_eq, limitReached_iff]
    exact room
  simp [jobDone, going]

/-- What is known of a periodic loop from its start on: rounds that it went on from, and the present one. -/
structure Underway (first period : Time) (maxJobs : Option UInt64) (sink : Sink) (events : List Event)
    (l : Loop) (n : Nat) (stage : Stage) : Prop where
  here : l.spot.stage? = some stage
  pace : l.pace = .periodic period
  limit : l.maxJobs = maxJobs
  release : l.release.toNanos = first.toNanos + n * period.toNanos
  jobs : l.jobs = n + stage.counted
  started : starts events = n + stage.started
  slept : (sleeps events).map Time.toNanos = instants first period (n + stage.slept)
  told : rounds events = List.replicate n .passed ++ stage.begun
  unlimited : 0 < l.jobs → ¬LimitAt maxJobs l.jobs
  recorded : ∃ samples, l.sink = sink.recordAll samples ∧ (sink.isSampling → samples.length = l.jobs)
  length : events.length ≤ 7 * n + stage.order
  /-- Only the first job is entered by way of the state. -/
  entering : l.spot = .enter → n = 0

/-- Why a periodic loop ended: behind the rounds that it went on from, with what was left of the last one,
after so many jobs. -/
inductive Ending (first period : Time) (maxJobs : Option UInt64) (events : List Event) :
    Nat → List Round → Nat → Loop.Spot → Prop
  /-- The system cannot sleep to the first instant. -/
  | unfit (late : Time.nativeEnd ≤ first.toNanos) (nothing : events = []) :
      Ending first period maxJobs events 0 [] 0 (.ended (.error (.io .invalidInput)))
  /-- The last job reached the limit, or a stop was seen behind it. -/
  | done {n : Nat} {stop : Option Bool} (ends : LimitAt maxJobs (n + 1) ∨ stop = some true) :
      Ending first period maxJobs events n [{ finish := .finished (.ok ()), stop }] (n + 1)
        (.ended (.ok (n + 1)))
  | failed {n : Nat} {e : Error} (starts : starts events = n + 1) :
      Ending first period maxJobs events n [{ finish := .finished (.error e), stop := none }] n
        (.ended (.error e))
  | panicked {n : Nat} :
      Ending first period maxJobs events n [{ finish := .panicked, stop := none }] n .panicked
  /-- The system refused it a sleep or a reading of the clock. -/
  | refused {n : Nat} {last : List Round} {e : Error} (refused : ∃ e ∈ events, e.refuses = true)
      (fine : last = [] ∨ last = [.succeeded]) :
      Ending first period maxJobs events n last n (.ended (.error e))
  /-- The next instant is none. -/
  | beyond {n : Nat} (late : Time.max.toNanos < first.toNanos + (n + 1) * period.toNanos) :
      Ending first period maxJobs events (n + 1) [] (n + 1) (.ended (.error .overflow))
  /-- The system cannot sleep to the next instant. -/
  | unslept {n : Nat} (late : Time.nativeEnd ≤ first.toNanos + (n + 1) * period.toNanos)
      (inside : first.toNanos + (n + 1) * period.toNanos ≤ Time.max.toNanos) :
      Ending first period maxJobs events (n + 1) [] (n + 1) (.ended (.error (.io .invalidInput)))

section

variable {first period : Time} {maxJobs : Option UInt64} {events : List Event} {n jobs : Nat}
  {last : List Round} {spot : Spot}

theorem Ending.spot_eq (ending : Ending first period maxJobs events n last jobs spot) :
    (∃ outcome, spot = .ended outcome) ∨ spot = .panicked := by
  cases ending with
  | panicked => exact .inr rfl
  | _ => exact .inl ⟨_, rfl⟩

theorem Ending.short (ending : Ending first period maxJobs events n last jobs spot) : last.length ≤ 1 := by
  cases ending with
  | done | failed | panicked => exact Nat.le_refl 1
  | unfit | beyond | unslept => exact Nat.zero_le 1
  | refused _ fine =>
    rcases fine with rfl | rfl
    · exact Nat.zero_le 1
    · exact Nat.le_refl 1

end

/-- What is known of a periodic loop wherever it stands. -/
inductive Told (first period : Time) (maxJobs : Option UInt64) (sink : Sink) (events : List Event)
    (l : Loop) : Prop
  | underway {n : Nat} {stage : Stage} (on : Underway first period maxJobs sink events l n stage)
  | through {n slept : Nat} {last : List Round} (ending : Ending first period maxJobs events n last l.jobs l.spot)
      (told : rounds events = List.replicate n .passed ++ last) (unlimited : 0 < n → ¬LimitAt maxJobs n)
      (sleeps : (sleeps events).map Time.toNanos = instants first period slept)
      (recorded : ∃ samples, l.sink = sink.recordAll samples ∧ (sink.isSampling → samples.length = l.jobs))
      (length : events.length ≤ 7 * TaskTiming.starts events + 3)

variable {first period : Time} {maxJobs : Option UInt64} {sink : Sink} {events : List Event} {l l' : Loop}
  {e : Event} {n : Nat} {stage : Stage}

theorem Underway.length_snoc (on : Underway first period maxJobs sink events l n stage) (e : Event) :
    (events ++ [e]).length ≤ 7 * n + stage.order + 1 := by
  rw [List.length_append, List.length_singleton]
  exact Nat.succ_le_succ on.length

/-- A step within a round. -/
theorem Underway.move (on : Underway first period maxJobs sink events l n stage) {spot : Spot} {next : Stage}
    (there : spot.stage? = some next) (later : stage.order < next.order)
    (started : next.started = stage.started + e.isStart.toNat) (counted : next.counted = stage.counted)
    (slept : e.sleep? = none ∧ next.slept = stage.slept ∨
      e.sleep? = some l.release ∧ next.slept = 1 ∧ stage.slept = 0)
    (told : Round.told (List.replicate n .passed ++ stage.begun) e = List.replicate n .passed ++ next.begun)
    (entering : spot = .enter → n = 0) :
    Told first period maxJobs sink (events ++ [e]) { l with spot } := by
  refine .underway (n := n) {
    here := there, pace := on.pace, limit := on.limit, release := on.release, jobs := ?_, started := ?_
    slept := ?_, told := ?_, unlimited := on.unlimited, recorded := on.recorded, length := ?_
    entering := entering }
  · rw [counted]
    exact on.jobs
  · rw [starts_snoc, on.started, started]
    omega
  · rw [sleeps_snoc, List.map_append, on.slept]
    rcases slept with ⟨none, same⟩ | ⟨some, one, zero⟩
    · simp [none, same]
    · simp [some, one, zero, instants_succ, on.release]
  · rw [rounds_snoc, on.told, told]
  · have long := on.length_snoc e
    omega

/-- The stage is that of the place. -/
theorem Underway.standing (on : Underway first period maxJobs sink events l n stage) {spot : Spot}
    (here : l.spot = spot) {other : Stage} (there : spot.stage? = some other) :
    Underway first period maxJobs sink events l n other := by
  have same := on.here
  rw [here, there] at same
  cases same
  exact on

/-- A round has no job in it that is over, or one that succeeded. -/
theorem Underway.begun (on : Underway first period maxJobs sink events l n stage) :
    stage.begun = [] ∨ stage.begun = [.succeeded] := by
  have here := on.here
  unfold Spot.stage? at here
  split at here <;> cases here <;> simp

theorem Underway.short (on : Underway first period maxJobs sink events l n stage) : stage.begun.length ≤ 1 := by
  rcases on.begun with none | one
  · rw [none]
    exact Nat.zero_le 1
  · rw [one]
    exact Nat.le_refl 1

theorem Underway.unlimited_round (on : Underway first period maxJobs sink events l n stage) (pos : 0 < n) :
    ¬LimitAt maxJobs n := by
  have jobs := on.jobs
  intro limit
  exact on.unlimited (by omega) (limit.mono (by omega))

/-- The control that is found behind a job belongs to its round. -/
theorem told_access (rounds : List Round) (finish : JobEnd) (found left : Control) :
    Round.told (rounds ++ [{ finish, stop := none }]) (.access found left) =
      rounds ++ [{ finish, stop := some found.stopped }] := by
  simp [Round.told]

/-- A round is over where its job is done: at the limit the loop ends, and otherwise it looks for a stop. -/
theorem Underway.count (on : Underway first period maxJobs sink events l n stage) {k : Sink} (rest : List Sample)
    (nothing : stage.counted = 0) (slept : stage.slept = 1) (begun : stage.started = 1)
    (early : stage.order ≤ 5) (kept : k = l.sink.recordAll rest)
    (sampled : l.sink.isSampling → rest.length = 1) (start : e.isStart = false) (sleep : e.sleep? = none)
    (told : Round.told (List.replicate n .passed ++ stage.begun) e = List.replicate n .passed ++ [.succeeded]) :
    Told first period maxJobs sink (events ++ [e]) (jobDone { l with sink := k }) := by
  obtain ⟨samples, offered, lengths⟩ := on.recorded
  have jobs : l.jobs = n := by
    have all := on.jobs
    omega
  have starts : starts (events ++ [e]) = n + 1 := by
    rw [starts_snoc, on.started, begun, start]
    rfl
  have sleeps : (sleeps (events ++ [e])).map Time.toNanos = instants first period (n + 1) := by
    rw [sleeps_snoc, sleep]
    simpa [slept] using on.slept
  have rounds : rounds (events ++ [e]) = List.replicate n .passed ++ [.succeeded] := by
    rw [rounds_snoc, on.told, told]
  have recorded : ∃ samples, k = sink.recordAll samples ∧ (sink.isSampling → samples.length = l.jobs + 1) := by
    refine ⟨samples ++ rest, ?_, ?_⟩
    · rw [kept, offered, Sink.recordAll_append]
    · intro wanted
      have one := sampled (by rw [offered, Sink.isSampling_recordAll]; exact wanted)
      simp [lengths wanted, one]
  have length : (events ++ [e]).length ≤ 7 * n + 6 := by
    have long := on.length_snoc e
    omega
  by_cases limit : LimitAt maxJobs (n + 1)
  · have ended : (jobDone { l with sink := k }).spot = .ended (.ok (l.jobs + 1)) :=
      spot_jobDone_of_limit (by rwa [on.limit, jobs])
    refine .through (n := n) ?_ rounds on.unlimited_round sleeps recorded (by omega)
    rw [ended]
    show Ending first period maxJobs _ n _ (l.jobs + 1) _
    rw [jobs]
    exact .done (.inl limit)
  · have going : (jobDone { l with sink := k }).spot = .check :=
      spot_jobDone_of_room (by rwa [on.limit, jobs])
    refine .underway (n := n) {
      here := by rw [going]; rfl
      pace := on.pace, limit := on.limit, release := on.release, jobs := congrArg (· + 1) jobs
      started := starts, slept := sleeps, told := rounds, unlimited := ?_, recorded := recorded
      length := length, entering := ?_ }
    · intro _
      show ¬LimitAt maxJobs (l.jobs + 1)
      rwa [jobs]
    · intro enters
      rw [going] at enters
      cases enters

/-- A loop ends in its round. -/
theorem Underway.through (on : Underway first period maxJobs sink events l n stage) {spot : Spot}
    (early : stage.order ≤ 7 * stage.started + 2)
    (slept : e.sleep? = none ∨ e.sleep? = some l.release ∧ stage.slept = 0)
    (last : List Round) (ending : Ending first period maxJobs (events ++ [e]) n last l.jobs spot)
    (told : Round.told (List.replicate n .passed ++ stage.begun) e = List.replicate n .passed ++ last) :
    Told first period maxJobs sink (events ++ [e]) { l with spot } := by
  have rounds : rounds (events ++ [e]) = List.replicate n .passed ++ last := by
    rw [rounds_snoc, on.told, told]
  have sleeps : ∃ slept, (sleeps (events ++ [e])).map Time.toNanos = instants first period slept := by
    rw [sleeps_snoc, List.map_append, on.slept]
    rcases slept with none | ⟨some, zero⟩
    · exact ⟨n + stage.slept, by simp [none]⟩
    · exact ⟨n + 1, by simp [some, zero, instants_succ, on.release]⟩
  obtain ⟨slept, sleeps⟩ := sleeps
  refine .through ending rounds on.unlimited_round sleeps on.recorded ?_
  have long := on.length_snoc e
  have started := on.started
  rw [starts_snoc]
  omega

/-- A loop ends where the system refuses it something. -/
theorem Underway.refused (on : Underway first period maxJobs sink events l n stage) {spot : Spot} {next : Stage}
    {error : Error} (here : l.spot = spot) (there : spot.stage? = some next)
    (slept : e.sleep? = none ∨ e.sleep? = some l.release ∧ next.slept = 0) (refused : e.refuses = true)
    (early : next.order ≤ 7 * next.started + 2) (uncounted : next.counted = 0)
    (told : Round.told (rounds events) e = rounds events) :
    Told first period maxJobs sink (events ++ [e]) (l.fail error) := by
  replace on := on.standing here there
  have jobs : l.jobs = n := by
    have all := on.jobs
    omega
  refine on.through early slept next.begun ?_ (on.told ▸ told)
  rw [jobs]
  exact .refused ⟨e, by simp, refused⟩ on.begun

/-- From a round on to the next, if the instant a period later is one that the system can sleep to. -/
theorem Underway.again (on : Underway first period maxJobs sink events l n stage) (here : l.spot = .check)
    {found : Control} (stop : found.stopped = false) :
    Told first period maxJobs sink (events ++ [.access found found]) l.again := by
  replace on := on.standing here rfl
  have jobs : l.jobs = n + 1 := on.jobs
  have starts : starts (events ++ [.access found found]) = n + 1 := by
    rw [starts_snoc, on.started]
    rfl
  have sleeps : (sleeps (events ++ [.access found found])).map Time.toNanos =
      instants first period (n + 1) := by
    rw [sleeps_snoc]
    simpa [Event.sleep?] using on.slept
  have rounds : rounds (events ++ [.access found found]) = List.replicate (n + 1) .passed ++ [] := by
    rw [rounds_snoc, on.told, List.append_nil]
    show Round.told (_ ++ [.succeeded]) _ = _
    rw [Round.succeeded, told_access, stop, List.replicate_succ']
    rfl
  have unlimited : ¬LimitAt maxJobs (n + 1) := jobs ▸ on.unlimited (by omega)
  have length : (events ++ [Event.access found found]).length ≤ 7 * (n + 1) := on.length_snoc _
  have sum : l.release.toNanos + period.toNanos = first.toNanos + (n + 1) * period.toNanos := by
    rw [on.release, Nat.add_mul, Nat.one_mul, Nat.add_assoc]
  have next := Time.add?_eq l.release period
  rw [sum] at next
  cases added : l.release.add? period with
  | error e =>
    have fails : l.again = l.fail (.ofTime e) := by simp only [again_of_periodic on.pace, added]
    rw [fails]
    rw [added] at next
    obtain ⟨rfl, late⟩ := Time.ofNanos?_eq_error.1 next.symm
    refine .through (n := n + 1) ?_ rounds (fun _ => unlimited) sleeps on.recorded (by omega)
    show Ending first period maxJobs _ _ _ l.jobs _
    rw [jobs]
    exact .beyond late
  | ok release =>
    have goes : l.again = l.sleepTo release := by simp only [again_of_periodic on.pace, added]
    rw [goes]
    rw [added] at next
    have instant := Time.ofNanos?_eq_ok.1 next.symm
    by_cases fits : release.FitsNative
    · rw [sleepTo_of_fits fits]
      exact .underway (n := n + 1) {
        here := rfl, pace := on.pace, limit := on.limit, release := instant, jobs := jobs, started := starts
        slept := sleeps, told := rounds, unlimited := on.unlimited, recorded := on.recorded
        length := length, entering := nofun }
    · rw [sleepTo_of_not_fits fits]
      have late : Time.nativeEnd ≤ first.toNanos + (n + 1) * period.toNanos := by
        rw [Time.fitsNative_iff] at fits
        omega
      have inside := release.toNanos_le_max
      refine .through (n := n + 1) ?_ rounds (fun _ => unlimited) sleeps on.recorded (by omega)
      show Ending first period maxJobs _ _ _ l.jobs _
      rw [jobs]
      exact .unslept late (by omega)

/-- Only at a job's place does a job start. -/
theorem job_of_startJob {answer : Result Unit} (did : l.Did (.answer .startJob answer) l') :
    ∃ start, l.spot = .job start := by
  cases did with
  | started here => exact ⟨_, here⟩

/-- **One step of a periodic loop.** -/
theorem Told.step (told : Told first period maxJobs sink events l) (did : l.Did e l') :
    Told first period maxJobs sink (events ++ [e]) l' := by
  cases told with
  | through ending =>
    -- A loop that has ended takes no further step.
    rcases ending.spot_eq with ⟨outcome, ended⟩ | down
    · cases did with
      | _ here => simp [here] at ended
    · cases did with
      | _ here => simp [here] at down
  | underway on =>
    rename_i n stage
    cases did with
    | slept here =>
      replace on := on.standing here rfl
      have jobs : l.jobs = n := on.jobs
      rw [released_eq]
      rcases l.spot_released with ⟨there, none⟩ | there | there
      · rw [there]
        exact on.move rfl (by decide) rfl rfl (.inr ⟨rfl, rfl, rfl⟩) rfl fun _ => jobs.symm.trans none
      · rw [there]
        exact on.move rfl (by decide) rfl rfl (.inr ⟨rfl, rfl, rfl⟩) rfl nofun
      · rw [there]
        exact on.move rfl (by decide) rfl rfl (.inr ⟨rfl, rfl, rfl⟩) rfl nofun
    | sleepless here error => exact on.refused here rfl (.inr ⟨rfl, rfl⟩) rfl (by decide) rfl rfl
    | clocklessIn here error => exact on.refused here rfl (.inl rfl) rfl (by decide) rfl rfl
    | clocklessOut here error => exact on.refused here rfl (.inl rfl) rfl (by decide) rfl rfl
    | entered here found =>
      replace on := on.standing here rfl
      have first := on.entering here
      subst first
      rw [toJob_eq]
      rcases l.spot_toJob with there | there
      · rw [there]
        exact on.move rfl (by decide) rfl rfl (.inl ⟨rfl, rfl⟩) rfl nofun
      · rw [there]
        exact on.move rfl (by decide) rfl rfl (.inl ⟨rfl, rfl⟩) rfl nofun
    | clockedIn here start =>
      replace on := on.standing here rfl
      exact on.move rfl (by decide) rfl rfl (.inl ⟨rfl, rfl⟩) rfl nofun
    | started here answer =>
      replace on := on.standing here rfl
      exact on.move rfl (by decide) rfl rfl (.inl ⟨rfl, rfl⟩) rfl nofun
    | finished here wanted =>
      replace on := on.standing here rfl
      refine on.move rfl (by decide) rfl rfl (.inl ⟨rfl, rfl⟩) ?_ nofun
      simp [Round.told, Round.succeeded]
    | counted here unwanted =>
      replace on := on.standing here rfl
      refine on.count (k := l.sink) [] rfl rfl rfl (by decide) rfl ?_ rfl rfl ?_
      · simp [unwanted]
      · simp [Round.told, Round.succeeded]
    | clockedOut here finish =>
      replace on := on.standing here rfl
      exact on.count [_] rfl rfl rfl (by decide) rfl (fun _ => rfl) rfl rfl rfl
    | failed here error =>
      replace on := on.standing here rfl
      have jobs : l.jobs = n := on.jobs
      refine on.through (by decide) (.inl rfl) [{ finish := .finished (.error error), stop := none }] ?_ ?_
      · rw [jobs]
        apply Ending.failed
        rw [starts_snoc, on.started]
        rfl
      · rw [List.append_nil]
        rfl
    | panicked here =>
      replace on := on.standing here rfl
      have jobs : l.jobs = n := on.jobs
      refine on.through (by decide) (.inl rfl) [{ finish := .panicked, stop := none }] ?_ ?_
      · rw [jobs]
        exact .panicked
      · rw [List.append_nil]
        rfl
    | stopped here stop =>
      replace on := on.standing here rfl
      have jobs : l.jobs = n + 1 := on.jobs
      refine on.through (by decide) (.inl rfl) [{ finish := .finished (.ok ()), stop := some true }] ?_ ?_
      · rw [jobs]
        exact .done (.inr rfl)
      · show Round.told (_ ++ [.succeeded]) _ = _
        rw [Round.succeeded, told_access, stop]
    | wentOn here stop => exact on.again here stop
    | _ here =>
      have none := on.here
      rw [here] at none
      cases none

/-- A periodic loop before its first step. -/
theorem told_periodic (first period : Time) (maxJobs : Option UInt64) (sink : Sink) :
    Told first period maxJobs sink [] (.periodic first period maxJobs sink) := by
  unfold Loop.periodic
  have recorded : ∃ samples, sink = sink.recordAll samples ∧ (sink.isSampling → samples.length = 0) :=
    ⟨[], rfl, fun _ => rfl⟩
  by_cases fits : first.FitsNative
  · rw [sleepTo_of_fits fits]
    refine .underway (n := 0) {
      here := rfl, pace := rfl, limit := rfl, release := ?_, jobs := rfl, started := rfl, slept := rfl
      told := rfl, unlimited := nofun, recorded := recorded, length := Nat.le_refl 0, entering := nofun }
    rw [Nat.zero_mul, Nat.add_zero]
  · rw [sleepTo_of_not_fits fits]
    have late : Time.nativeEnd ≤ first.toNanos := by
      rw [Time.fitsNative_iff] at fits
      omega
    have sleeps : (sleeps []).map Time.toNanos = instants first period 0 := rfl
    exact .through (n := 0) (.unfit late rfl) rfl nofun sleeps recorded (Nat.zero_le _)

/-- **A whole run of a periodic loop.** -/
theorem Told.run {past : List Event} (told : Told first period maxJobs sink past l)
    (run : Run Loop.next l events l') : Told first period maxJobs sink (past ++ events) l' := by
  induction run generalizing past with
  | nil =>
    rw [List.append_nil]
    exact told
  | cons meets _ ih =>
    have later := ih (told.step (did_of_meets meets))
    rwa [List.append_assoc] at later

/-! ## What holds of every run -/

theorem Told.slept (told : Told first period maxJobs sink events l) :
    ∃ slept, (sleeps events).map Time.toNanos = instants first period slept := by
  cases told with
  | underway on => exact ⟨_, on.slept⟩
  | through _ _ _ sleeps => exact ⟨_, sleeps⟩

/-- A job starts behind as many sleeps as there are jobs then. -/
theorem Told.slept_of_job (told : Told first period maxJobs sink events l) {start : Time}
    (here : l.spot = .job start) :
    (sleeps events).map Time.toNanos = instants first period (starts events + 1) := by
  cases told with
  | underway on =>
    replace on := on.standing here rfl
    have started := on.started
    simpa [started] using on.slept
  | through ending =>
    rcases ending.spot_eq with ⟨outcome, ended⟩ | down
    · simp [here] at ended
    · simp [here] at down

theorem Told.length_le (told : Told first period maxJobs sink events l) :
    events.length ≤ 7 * starts events + 3 := by
  cases told with
  | underway on =>
    have long := on.length
    have started := on.started
    have here := on.here
    unfold Spot.stage? at here
    split at here <;> cases here <;> dsimp only at long started <;> omega
  | through _ _ _ _ _ length => exact length

/-! ## Where a run returns -/

/-- The limit or a stop ends a run behind so many jobs. -/
def StopsAfter (maxJobs : Option UInt64) (rounds : List Round) (m : Nat) : Prop :=
  0 < m ∧ (LimitAt maxJobs m ∨ ∃ r, rounds[m - 1]? = some r ∧ r.stop = some true)

/-- So many jobs succeed, and the limit or a stop ends the run behind these and not before. -/
structure EndsAfter (maxJobs : Option UInt64) (rounds : List Round) (m : Nat) : Prop where
  succeeded : ∀ k < m, ∃ r, rounds[k]? = some r ∧ r.finish = .finished (.ok ())
  stops : StopsAfter maxJobs rounds m
  least : ∀ k < m, ¬StopsAfter maxJobs rounds k

/-- Behind the rounds that passed there is one more at most. -/
theorem eq_last {last : List Round} {n k : Nat} {r : Round}
    (here : (List.replicate n .passed ++ last)[k]? = some r) (short : last.length ≤ 1) (late : n ≤ k) :
    k = n ∧ last = [r] := by
  rw [List.getElem?_append_right (by rwa [List.length_replicate]), List.length_replicate] at here
  have inside := (List.getElem?_eq_some_iff.1 here).1
  obtain ⟨s, rfl⟩ := List.length_eq_one_iff.1 (show last.length = 1 by omega)
  obtain rfl : k = n := by
    rw [List.length_singleton] at inside
    omega
  rw [Nat.sub_self] at here
  cases here
  exact ⟨rfl, rfl⟩

theorem getElem?_passed (last : List Round) {n k : Nat} (early : k < n) :
    (List.replicate n .passed ++ last)[k]? = some .passed := by
  rw [List.getElem?_append_left (by rwa [List.length_replicate]), List.getElem?_replicate_of_lt early]

/-- Rounds that a loop goes on from do not end its run. -/
theorem not_stopsAfter {maxJobs : Option UInt64} {last : List Round} {n k : Nat}
    (unlimited : 0 < n → ¬LimitAt maxJobs n) (early : k ≤ n) :
    ¬StopsAfter maxJobs (List.replicate n .passed ++ last) k := by
  rintro ⟨pos, limit | ⟨r, here, stop⟩⟩
  · exact unlimited (by omega) (limit.mono early)
  · rw [getElem?_passed last (by omega)] at here
    cases here
    cases stop

/-- A run that may end does so behind the round that follows. -/
theorem EndsAfter.last {maxJobs : Option UInt64} {last : List Round} {n m : Nat}
    (ends : EndsAfter maxJobs (List.replicate n .passed ++ last) m) (short : last.length ≤ 1)
    (unlimited : 0 < n → ¬LimitAt maxJobs n) :
    m = n + 1 ∧ ∃ r, last = [r] ∧ r.finish = .finished (.ok ()) ∧
      (LimitAt maxJobs (n + 1) ∨ r.stop = some true) := by
  have late : n < m := Nat.lt_of_not_le fun early => not_stopsAfter unlimited early ends.stops
  obtain ⟨r, here, fine⟩ := ends.succeeded (m - 1) (by omega)
  obtain ⟨count, single⟩ := eq_last here short (by omega)
  obtain rfl : m = n + 1 := by omega
  refine ⟨rfl, r, single, fine, ?_⟩
  rcases ends.stops.2 with limit | ⟨s, there, stop⟩
  · exact .inl limit
  · rw [here] at there
    cases there
    exact .inr stop

/-- A job that fails is the last one. -/
theorem failed_last {last : List Round} {n k : Nat} {r : Round} {error : Error}
    (here : (List.replicate n .passed ++ last)[k]? = some r) (short : last.length ≤ 1)
    (failed : r.finish = .finished (.error error)) : k = n ∧ last = [r] := by
  refine eq_last here short (Nat.le_of_not_lt fun early => ?_)
  rw [getElem?_passed last early] at here
  cases here
  cases failed

theorem endsAfter_succ {maxJobs : Option UInt64} {n : Nat} {stop : Option Bool}
    (unlimited : 0 < n → ¬LimitAt maxJobs n) (ends : LimitAt maxJobs (n + 1) ∨ stop = some true) :
    EndsAfter maxJobs (List.replicate n .passed ++ [{ finish := .finished (.ok ()), stop }]) (n + 1) where
  succeeded k early := by
    rcases Nat.lt_succ_iff_lt_or_eq.1 early with before | rfl
    · exact ⟨.passed, getElem?_passed _ before, rfl⟩
    · exact ⟨{ finish := .finished (.ok ()), stop }, by simp, rfl⟩
  stops := by
    refine ⟨Nat.succ_pos n, ends.imp_right fun seen => ⟨{ finish := .finished (.ok ()), stop }, ?_, seen⟩⟩
    simp
  least k early := not_stopsAfter unlimited (by omega)

theorem Told.returned (told : Told first period maxJobs sink events l) {m : Nat}
    (here : l.spot = .ended (.ok m)) : EndsAfter maxJobs (rounds events) m := by
  cases told with
  | underway on =>
    have none := on.here
    rw [here] at none
    cases none
  | through ending told unlimited =>
    rw [here] at ending
    rw [told]
    generalize l.jobs = jobs at ending
    cases ending with
    | done ends => exact endsAfter_succ unlimited ends

theorem Told.prompt (told : Told first period maxJobs sink events l) {m : Nat}
    (ends : EndsAfter maxJobs (rounds events) m) (granted : ∀ e ∈ events, e.refuses = false) :
    l.spot = .ended (.ok m) ∨ ∃ start, l.spot = .clockOut start := by
  cases told with
  | underway on =>
    rw [on.told] at ends
    obtain ⟨-, r, single, fine, last⟩ := ends.last on.short on.unlimited_round
    have here := on.here
    unfold Spot.stage? at here
    split at here
    case h_6 start spot => exact .inr ⟨start, spot⟩
    case h_7 =>
      -- Where a loop looks for a stop the limit is not reached, and no stop has been seen.
      cases here
      cases single
      rcases last with limit | stop
      · have jobs : l.jobs = _ + 1 := on.jobs
        exact (on.unlimited (by omega) (jobs ▸ limit)).elim
      · cases stop
    all_goals cases here
    all_goals cases single
  | through ending =>
    rename_i told unlimited _ _ _
    rw [told] at ends
    obtain ⟨rfl, r, rfl, fine, -⟩ := ends.last ending.short unlimited
    generalize l.jobs = jobs, l.spot = spot at ending
    cases ending with
    | done => exact .inl rfl
    | failed | panicked => cases fine
    | refused refused =>
      obtain ⟨e, mem, refused⟩ := refused
      rw [granted e mem] at refused
      cases refused

theorem Told.fails (told : Told first period maxJobs sink events l) {k : Nat} {r : Round} {error : Error}
    (here : (rounds events)[k]? = some r) (failed : r.finish = .finished (.error error)) :
    l.spot = .ended (.error error) ∧ starts events = k + 1 ∧
      ∃ samples, l.sink = sink.recordAll samples ∧ (sink.isSampling → samples.length = k) := by
  cases told with
  | underway on =>
    rw [on.told] at here
    obtain ⟨-, single⟩ := failed_last here on.short failed
    rcases on.begun with none | one
    · rw [none] at single
      cases single
    · rw [one] at single
      cases single
      cases failed
  | through ending told _ _ recorded =>
    rw [told] at here
    obtain ⟨rfl, rfl⟩ := failed_last here ending.short failed
    generalize l.jobs = jobs, l.spot = spot at ending recorded
    cases ending with
    | failed starts =>
      cases failed
      exact ⟨rfl, starts, recorded⟩
    | done | panicked => cases failed
    | refused _ fine =>
      rcases fine with none | one
      · cases none
      · cases one
        cases failed

theorem Told.brought_down (told : Told first period maxJobs sink events l) (here : l.spot = .panicked) :
    ∃ r ∈ rounds events, r.finish = .panicked := by
  cases told with
  | underway on =>
    have none := on.here
    rw [here] at none
    cases none
  | through ending told =>
    rw [here] at ending
    rw [told]
    generalize l.jobs = jobs at ending
    cases ending with
    | panicked => exact ⟨{ finish := .panicked, stop := none }, by simp, rfl⟩

theorem Told.errors (told : Told first period maxJobs sink events l) {error : Error}
    (here : l.spot = .ended (.error error)) (granted : ∀ e ∈ events, e.refuses = false) :
    (∃ r ∈ rounds events, r.finish = .finished (.error error)) ∨
    (error = .io .invalidInput ∧ Time.nativeEnd ≤ first.toNanos ∧ events = []) ∨
    ∃ k, rounds events = List.replicate (k + 1) .passed ∧ ¬LimitAt maxJobs (k + 1) ∧
      (error = .overflow ∧ Time.max.toNanos < first.toNanos + (k + 1) * period.toNanos ∨
        error = .io .invalidInput ∧ Time.nativeEnd ≤ first.toNanos + (k + 1) * period.toNanos ∧
          first.toNanos + (k + 1) * period.toNanos ≤ Time.max.toNanos) := by
  cases told with
  | underway on =>
    have none := on.here
    rw [here] at none
    cases none
  | through ending told unlimited =>
    rw [here] at ending
    rw [told]
    generalize l.jobs = jobs at ending
    cases ending with
    | unfit late nothing => exact .inr (.inl ⟨rfl, late, nothing⟩)
    | failed => exact .inl ⟨{ finish := .finished (.error error), stop := none }, by simp, rfl⟩
    | refused refused =>
      obtain ⟨e, mem, refused⟩ := refused
      rw [granted e mem] at refused
      cases refused
    | beyond late =>
      exact .inr (.inr ⟨_, List.append_nil _, unlimited (Nat.succ_pos _), .inl ⟨rfl, late⟩⟩)
    | unslept late inside =>
      exact .inr (.inr ⟨_, List.append_nil _, unlimited (Nat.succ_pos _), .inr ⟨rfl, late, inside⟩⟩)

/-- What the run of a periodic loop from its start on shows, as far as it has come. -/
structure KeepsInstants (first period : Time) (maxJobs : Option UInt64) (sink : Sink) (events : List Event)
    (l : Loop) : Prop where
  /-- It sleeps to first, first + period, first + 2 * period and so on. -/
  sleeps : (sleeps events).map Time.toNanos = instants first period (TaskTiming.sleeps events).length
  /-- A job starts when all sleeps up to its own instant are over, and no later one has begun. -/
  afterSleep : ∀ before answer after, events = before ++ .answer .startJob answer :: after →
    (TaskTiming.sleeps before).map Time.toNanos = instants first period (starts before + 1)
  /-- It takes no step without getting on. -/
  steady : events.length ≤ 7 * starts events + 3
  /-- Where it is over, it returns the least count behind which the limit or a stop ends the run. -/
  returns : l.next = .idle → (∀ e ∈ events, e.refuses = false) →
    ∀ m, l.spot = .ended (.ok m) ↔ EndsAfter maxJobs (rounds events) m
  /-- It is over there, after one more reading of the clock at most. -/
  prompt : ∀ m, EndsAfter maxJobs (rounds events) m → (∀ e ∈ events, e.refuses = false) →
    l.spot = .ended (.ok m) ∨ ∃ start, l.spot = .clockOut start
  /-- A job that fails is the last, and leaves the samples of those before it. -/
  fails : ∀ k r e, (rounds events)[k]? = some r → r.finish = .finished (.error e) →
    l.spot = .ended (.error e) ∧ starts events = k + 1 ∧
      ∃ samples, l.sink = sink.recordAll samples ∧ (sink.isSampling → samples.length = k)
  /-- Only a job brings down its thread. -/
  broughtDown : l.spot = .panicked → ∃ r ∈ rounds events, r.finish = .panicked
  /-- If the system refuses nothing, only a job fails, or a release that is no instant or none of the
  system's, behind a job that the run did not end with. -/
  errors : ∀ e, l.spot = .ended (.error e) → (∀ e ∈ events, e.refuses = false) →
    (∃ r ∈ rounds events, r.finish = .finished (.error e)) ∨
    (e = .io .invalidInput ∧ Time.nativeEnd ≤ first.toNanos ∧ events = []) ∨
    ∃ k, rounds events = List.replicate (k + 1) .passed ∧ ¬LimitAt maxJobs (k + 1) ∧
      (e = .overflow ∧ Time.max.toNanos < first.toNanos + (k + 1) * period.toNanos ∨
        e = .io .invalidInput ∧ Time.nativeEnd ≤ first.toNanos + (k + 1) * period.toNanos ∧
          first.toNanos + (k + 1) * period.toNanos ≤ Time.max.toNanos)

/-- **A periodic loop keeps its instants**, whatever its jobs, the clock and those who share the control do,
and ends just where it should. -/
theorem periodic_keeps_its_instants (run : Run next (periodic first period maxJobs sink) events l) :
    KeepsInstants first period maxJobs sink events l := by
  have told : Told first period maxJobs sink events l := (told_periodic first period maxJobs sink).run run
  refine {
    sleeps := ?_, afterSleep := ?_, steady := told.length_le, returns := ?_, prompt := fun m => told.prompt
    fails := fun k r e => told.fails, broughtDown := told.brought_down, errors := fun e => told.errors }
  · obtain ⟨slept, instants⟩ := told.slept
    have count := congrArg List.length instants
    simp only [List.length_map, length_instants] at count
    rw [count]
    exact instants
  · rintro before answer after rfl
    obtain ⟨l, early, late⟩ := run.split
    cases late with
    | cons meets _ =>
      obtain ⟨start, here⟩ := job_of_startJob (did_of_meets meets)
      exact ((told_periodic first period maxJobs sink).run early).slept_of_job here
  · intro idle granted m
    constructor
    · exact told.returned
    · intro ends
      rcases told.prompt ends granted with ended | ⟨start, here⟩
      · exact ended
      · rw [next, here] at idle
        cases idle

/-- A stop comes with the second job: the loop slept to its two instants and returns two. -/
theorem periodic_keeps_its_instants_stopped :
    let first : Time := { sec := 0, nsec := 5, nsec_lt := by decide }
    let period : Time := { sec := 0, nsec := 3, nsec_lt := by decide }
    ∃ events l, Run next (periodic first period none .none) events l ∧ l.spot = .ended (.ok 2) ∧
      (sleeps events).map Time.toNanos = [5, 8] ∧ EndsAfter none (rounds events) 2 := by
  intro first period
  let calm : Control := .new
  let second : Time := { sec := 0, nsec := 8, nsec_lt := by decide }
  let stand (jobs : Nat) (release : Time) (spot : Spot) : Loop := {
    pace := .periodic period, maxJobs := none, sink := .none, jobs, release, spot }
  obtain ⟨events, l, run, returned, two, granted⟩ :
      ∃ events l, Run next (periodic first period none .none) events l ∧ l.spot = .ended (.ok 2) ∧
        (sleeps events).length = 2 ∧ ∀ e ∈ events, e.refuses = false := by
    have run : Run next (stand 0 first .sleep) _ (stand 2 second (.ended (.ok 2))) :=
      .cons (t := stand 0 first .enter) (.ask _ _ (.ok ())) <|
      .cons (t := stand 0 first (.job .zero)) (.access _ calm) <|
      .cons (t := stand 0 first (.working .zero)) (.ask _ _ (.ok ())) <|
      .cons (t := stand 1 first .check) (.finishJob _ (.finished (.ok ()))) <|
      .cons (t := stand 1 second .sleep) (.access _ calm) <|
      .cons (t := stand 1 second (.job .zero)) (.ask _ _ (.ok ())) <|
      .cons (t := stand 1 second (.working .zero)) (.ask _ _ (.ok ())) <|
      .cons (t := stand 2 second .check) (.finishJob _ (.finished (.ok ()))) <|
      .cons (.access _ { calm with stopped := true }) <|
      .nil _
    exact ⟨_, _, run, rfl, rfl, by simp [Event.refuses]⟩
  have kept := periodic_keeps_its_instants run
  have idle : l.next = .idle := by rw [next, returned]
  refine ⟨events, l, run, returned, ?_, (kept.returns idle granted 2).1 returned⟩
  rw [kept.sleeps, two]
  rfl

end Loop

end TaskTiming
