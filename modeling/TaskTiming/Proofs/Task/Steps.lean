import TaskTiming.Proofs.Log.RecordCodec
import TaskTiming.Proofs.Task.Run
import TaskTiming.Task.Thread

/-!
# What one step can do

Each step of a loop is one of a few (`Loop.Did`), and so is each step of a thread: one of its loop, or one
before it or behind it (`Thread.Did`). What is said of single steps elsewhere is said case by case of
these, and nobody has to look at the machines again.
-/

namespace TaskTiming
set_option autoImplicit false

/-- A job starts. -/
def Event.isStart : Event → Bool
  | .answer .startJob _ => true
  | _ => false

/-- A job ends. -/
def Event.isEnd : Event → Bool
  | .jobEnd _ => true
  | _ => false

/-- The system refuses a thread its class, a sleep or a reading of the clock. -/
def Event.refuses : Event → Bool
  | .answer (.enter _) (.error _) => true
  | .answer (.sleepUntil _) (.error _) => true
  | .clock (.error _) => true
  | _ => false

/-- How many jobs start. -/
def starts (events : List Event) : Nat := events.countP Event.isStart

/-- How many jobs end. -/
def ends (events : List Event) : Nat := events.countP Event.isEnd

theorem starts_snoc (events : List Event) (e : Event) :
    starts (events ++ [e]) = starts events + e.isStart.toNat := by
  cases start : e.isStart <;> simp [starts, start]

theorem ends_snoc (events : List Event) (e : Event) :
    ends (events ++ [e]) = ends events + e.isEnd.toNat := by
  cases stop : e.isEnd <;> simp [ends, stop]

/-! ## Loops -/

namespace Loop

/-- A step of a loop: where it stands, what it meets and where that takes it. -/
inductive Did (l : Loop) : Event → Loop → Prop
  | slept (here : l.spot = .sleep) : Did l (.answer (.sleepUntil l.release) (.ok ())) l.released
  | sleepless (here : l.spot = .sleep) (e : Error) :
      Did l (.answer (.sleepUntil l.release) (.error e)) (l.fail e)
  | entered (here : l.spot = .enter) (found : Control) :
      Did l (.access found (found.advance .running)) l.toJob
  | raised (here : l.spot = .raise) (found : Control) :
      Did l (.access found { found with inWait := true }) { l with spot := .look }
  | warned (here : l.spot = .look) {found : Control} (stop : found.stopped = true) :
      Did l (.access found found) { l with spot := .retreat }
  | unwarned (here : l.spot = .look) {found : Control} (stop : found.stopped = false) :
      Did l (.access found found) { l with spot := .wait }
  | retreated (here : l.spot = .retreat) (found : Control) :
      Did l (.access found { found with inWait := false }) { l with spot := .ended (.ok l.jobs) }
  | waited (here : l.spot = .wait) (outcome : Result WaitOutcome) :
      Did l (.waitEnd outcome) { l with spot := .lower outcome }
  | released (here : l.spot = .lower (.ok .released)) (found : Control) :
      Did l (.access found { found with inWait := false }) l.released
  | cancelled (here : l.spot = .lower (.ok .cancelled)) (found : Control) :
      Did l (.access found { found with inWait := false }) { l with spot := .ended (.ok l.jobs) }
  | unwaited {e : Error} (here : l.spot = .lower (.error e)) (found : Control) :
      Did l (.access found { found with inWait := false }) (l.fail e)
  | clockedIn (here : l.spot = .clockIn) (start : Time) :
      Did l (.clock (.ok start)) { l with spot := .job start }
  | clocklessIn (here : l.spot = .clockIn) (e : Error) : Did l (.clock (.error e)) (l.fail e)
  | started {start : Time} (here : l.spot = .job start) (outcome : Result Unit) :
      Did l (.answer .startJob outcome) { l with spot := .working start }
  | finished {start : Time} (here : l.spot = .working start) (wanted : l.sink.isSampling = true) :
      Did l (.jobEnd (.finished (.ok ()))) { l with spot := .clockOut start }
  | counted {start : Time} (here : l.spot = .working start) (unwanted : l.sink.isSampling = false) :
      Did l (.jobEnd (.finished (.ok ()))) l.jobDone
  | failed {start : Time} (here : l.spot = .working start) (e : Error) :
      Did l (.jobEnd (.finished (.error e))) (l.fail e)
  | panicked {start : Time} (here : l.spot = .working start) :
      Did l (.jobEnd .panicked) { l with spot := .panicked }
  | clockedOut {start : Time} (here : l.spot = .clockOut start) (finish : Time) :
      Did l (.clock (.ok finish)) { l with sink := l.sink.record { start, finish } }.jobDone
  | clocklessOut {start : Time} (here : l.spot = .clockOut start) (e : Error) :
      Did l (.clock (.error e)) (l.fail e)
  | stopped (here : l.spot = .check) {found : Control} (stop : found.stopped = true) :
      Did l (.access found found) { l with spot := .ended (.ok l.jobs) }
  | wentOn (here : l.spot = .check) {found : Control} (stop : found.stopped = false) :
      Did l (.access found found) l.again

/-- **What a loop can do.** -/
theorem did_of_meets {l l' : Loop} {e : Event} (meets : l.next.Meets e l') : l.Did e l' := by
  cases here : l.spot with
  | sleep =>
    rw [Loop.next, here] at meets
    cases meets with
    | ask _ _ outcome =>
      cases outcome with
      | ok => exact .slept here
      | error e => exact .sleepless here e
  | enter =>
    rw [Loop.next, here] at meets
    cases meets
    exact .entered here _
  | raise =>
    rw [Loop.next, here] at meets
    cases meets
    exact .raised here _
  | look =>
    rw [Loop.next, here] at meets
    cases meets with
    | access _ found =>
      dsimp only
      cases stop : found.stopped with
      | true => exact .warned here stop
      | false => exact .unwarned here stop
  | retreat =>
    rw [Loop.next, here] at meets
    cases meets
    exact .retreated here _
  | wait =>
    rw [Loop.next, here] at meets
    cases meets
    exact .waited here _
  | lower outcome =>
    rw [Loop.next, here] at meets
    cases meets
    match outcome with
    | .ok .released => exact .released here _
    | .ok .cancelled => exact .cancelled here _
    | .error e => exact .unwaited here _
  | clockIn =>
    rw [Loop.next, here] at meets
    cases meets with
    | readClock _ now =>
      cases now with
      | ok start => exact .clockedIn here start
      | error e => exact .clocklessIn here e
  | job start =>
    rw [Loop.next, here] at meets
    cases meets
    exact .started here _
  | working start =>
    rw [Loop.next, here] at meets
    cases meets with
    | finishJob _ outcome =>
      match outcome with
      | .finished (.ok ()) =>
        dsimp only
        split
        · rename_i wanted
          exact .finished here wanted
        · rename_i unwanted
          exact .counted here (by simpa using unwanted)
      | .finished (.error e) => exact .failed here e
      | .panicked => exact .panicked here
  | clockOut start =>
    rw [Loop.next, here] at meets
    cases meets with
    | readClock _ now =>
      cases now with
      | ok finish => exact .clockedOut here finish
      | error e => exact .clocklessOut here e
  | check =>
    rw [Loop.next, here] at meets
    cases meets with
    | access _ found =>
      dsimp only
      split
      · rename_i stop
        exact .stopped here stop
      · rename_i stop
        exact .wentOn here (by simpa using stop)
  | ended _ => rw [Loop.next, here] at meets; cases meets
  | panicked => rw [Loop.next, here] at meets; cases meets

/-! Where a loop comes out of what it does. -/

theorem spot_toJob (l : Loop) : l.toJob.spot = .clockIn ∨ l.toJob.spot = .job .zero := by
  unfold toJob
  cases l.sink.isSampling
  · exact .inr rfl
  · exact .inl rfl

theorem spot_released (l : Loop) :
    l.released.spot = .enter ∧ l.jobs = 0 ∨ l.released.spot = .clockIn ∨ l.released.spot = .job .zero := by
  unfold released
  split
  · rename_i none
    exact .inl ⟨rfl, none⟩
  · exact .inr l.spot_toJob

theorem sleepTo_of_fits {release : Time} (fits : release.FitsNative) (l : Loop) :
    l.sleepTo release = { l with release, spot := .sleep } := by
  have target : sleepTarget release = .ok ⟨release.sec.toInt64, release.nsec.toUInt64.toInt64⟩ := by
    rw [sleepTarget, Time.toNative_of_fits fits]
  rw [sleepTo, target]

/-- The system has no way to sleep until an instant that is none of its own. -/
theorem sleepTo_of_not_fits {release : Time} (misfit : ¬release.FitsNative) (l : Loop) :
    l.sleepTo release = fail { l with release } (.io .invalidInput) := by
  have overflows : release.toNative = .error .overflow := if_neg misfit
  have target : sleepTarget release = .error (.io .invalidInput) := by rw [sleepTarget, overflows]
  rw [sleepTo, target]
  rfl

theorem spot_sleepTo (l : Loop) (release : Time) :
    (l.sleepTo release).spot = .sleep ∨ ∃ e, (l.sleepTo release).spot = .ended (.error e) := by
  unfold sleepTo
  split
  · exact .inl rfl
  · exact .inr ⟨_, rfl⟩

/-- The next release of a periodic loop lies a period after the present one. -/
theorem again_of_periodic {l : Loop} {period : Time} (pace : l.pace = .periodic period) :
    l.again = match l.release.add? period with
      | .ok release => l.sleepTo release
      | .error e => l.fail (.ofTime e) := by
  obtain ⟨p, maxJobs, sink, jobs, release, spot⟩ := l
  cases pace
  rfl

theorem spot_again (l : Loop) :
    l.again.spot = .sleep ∨ l.again.spot = .raise ∨ ∃ e, l.again.spot = .ended (.error e) := by
  unfold again
  split
  · split
    · rcases l.spot_sleepTo _ with sleeps | fails
      · exact .inl sleeps
      · exact .inr (.inr fails)
    · exact .inr (.inr ⟨_, rfl⟩)
  · exact .inr (.inl rfl)

theorem spot_jobDone (l : Loop) : l.jobDone.spot = .check ∨ ∃ n, l.jobDone.spot = .ended (.ok n) := by
  unfold jobDone
  dsimp only
  split
  · exact .inr ⟨_, rfl⟩
  · exact .inl rfl

end Loop

/-! ## Threads -/

namespace Thread

/-- The loop is over, or the thread was not admitted. -/
def isThrough (t : Thread) : Bool :=
  match t.spot with
  | .admission => false
  | .admitted => false
  | .looping _ => false
  | _ => true

theorem isThrough_flush (t : Thread) (outcome : Result Nat) (sink : Sink) :
    (t.flush outcome sink).isThrough = true := by
  unfold Thread.flush
  split
  · rfl
  · dsimp only
    split
    · rfl
    · split <;> rfl

/-- A step of a thread: of its loop, before it, or behind it. -/
inductive Did (t : Thread) : Event → Thread → Prop
  | looped {l l' : Loop} {e : Event} (here : t.spot = .looping l) (did : l.Did e l') :
      Did t e (t.proceed l')
  | admitted (here : t.spot = .admission) :
      Did t (.answer (.enter t.admission) (.ok ())) { t with spot := .admitted }
  | refused (here : t.spot = .admission) (e : Error) :
      Did t (.answer (.enter t.admission) (.error e)) { t with spot := .leaving (.error e) t.sink }
  | released (here : t.spot = .admitted) (found : Control) :
      Did t (.access found (found.advance .released)) (t.proceed t.firstLoop)
  | closed {e : Event} {t' : Thread} (here : t.isThrough = true) (through : t'.isThrough = true)
      (noStart : e.isStart = false) (noEnd : e.isEnd = false) : Did t e t'

/-- **What a thread can do.** -/
theorem did_of_meets {t t' : Thread} {e : Event} (meets : t.next.Meets e t') : t.Did e t' := by
  cases here : t.spot with
  | looping l =>
    rw [Thread.next, here] at meets
    obtain ⟨l', inner, rfl⟩ := Action.meets_map meets
    exact .looped here (Loop.did_of_meets inner)
  | admission =>
    rw [Thread.next, here] at meets
    cases meets with
    | ask _ _ outcome =>
      cases outcome with
      | ok => exact .admitted here
      | error e => exact .refused here e
  | admitted =>
    rw [Thread.next, here] at meets
    cases meets
    exact .released here _
  | leaving outcome sink =>
    have through : t.isThrough = true := by rw [Thread.isThrough, here]
    rw [Thread.next, here] at meets
    cases meets
    cases outcome with
    | ok n => exact .closed through (t.isThrough_flush _ _) rfl rfl
    | error e => exact .closed through rfl rfl rfl
  | complaining e sink =>
    have through : t.isThrough = true := by rw [Thread.isThrough, here]
    rw [Thread.next, here] at meets
    cases meets
    exact .closed through (t.isThrough_flush _ _) rfl rfl
  | closing outcome report =>
    have through : t.isThrough = true := by rw [Thread.isThrough, here]
    rw [Thread.next, here] at meets
    cases meets
    match outcome, report with
    | .ok _, _ => exact .closed through rfl rfl rfl
    | .error _, .ok _ => exact .closed through rfl rfl rfl
    | .error _, .error _ => exact .closed through rfl rfl rfl
  | warning _ _ _ _ | writing _ _ _ | complainingAgain _ _ | finishing _ =>
    have through : t.isThrough = true := by rw [Thread.isThrough, here]
    rw [Thread.next, here] at meets
    cases meets
    exact .closed through rfl rfl rfl
  | ended _ => rw [Thread.next, here] at meets; cases meets

theorem proceed_eq (t : Thread) (l : Loop) : t.proceed l = { t with spot := (t.proceed l).spot } := by
  unfold Thread.proceed
  split <;> rfl

theorem flush_eq (t : Thread) (outcome : Result Nat) (sink : Sink) :
    t.flush outcome sink = { t with spot := (t.flush outcome sink).spot } := by
  unfold Thread.flush
  split
  · rfl
  · dsimp only
    split
    · rfl
    · split <;> rfl

/-- A step of a thread changes its spot alone. -/
theorem spot_of_meets {t t' : Thread} {e : Event} (meets : t.next.Meets e t') :
    t' = { t with spot := t'.spot } := by
  cases here : t.spot with
  | looping l =>
    rw [Thread.next, here] at meets
    obtain ⟨l', -, rfl⟩ := Action.meets_map meets
    exact t.proceed_eq l'
  | admission =>
    rw [Thread.next, here] at meets
    cases meets with
    | ask _ _ outcome => cases outcome <;> rfl
  | admitted =>
    rw [Thread.next, here] at meets
    cases meets
    exact t.proceed_eq _
  | leaving outcome sink =>
    rw [Thread.next, here] at meets
    cases meets
    cases outcome with
    | ok n => exact t.flush_eq _ _
    | error e => rfl
  | complaining _ _ =>
    rw [Thread.next, here] at meets
    cases meets
    exact t.flush_eq _ _
  | closing outcome report =>
    rw [Thread.next, here] at meets
    cases meets
    match outcome, report with
    | .ok _, _ => rfl
    | .error _, .ok _ => rfl
    | .error _, .error _ => rfl
  | warning _ _ _ _ | writing _ _ _ | complainingAgain _ _ | finishing _ =>
    rw [Thread.next, here] at meets
    cases meets
    rfl
  | ended _ => rw [Thread.next, here] at meets; cases meets

end Thread

end TaskTiming
