import TaskTiming.Proofs.Task.Steps

/-!
# Runs of an aperiodic loop

An aperiodic loop starts one job for each release that a wait brings it (`aperiodic_accounted`). Between a
release and its job there are a few steps, and a job counts when it is done; what is open is a table over
the places where the loop may stand (`Loop.Spot.open?`). Only where the system refuses it a reading of the
clock does a release go without a job, and that is the end of the loop.
-/

namespace TaskTiming
set_option autoImplicit false

/-- A wait brings a release. -/
def Event.isDelivery : Event → Bool
  | .waitEnd (.ok .released) => true
  | _ => false

/-- How many releases waits bring. -/
def deliveries (events : List Event) : Nat := events.countP Event.isDelivery

theorem deliveries_snoc (events : List Event) (e : Event) :
    deliveries (events ++ [e]) = deliveries events + e.isDelivery.toNat := by
  cases delivery : e.isDelivery <;> simp [deliveries, delivery]

namespace Loop

/-- What is open at a place: releases without their jobs, and jobs that do not count yet. -/
structure Open where
  owed : Nat
  running : Nat

/-- What is open in an aperiodic loop that has not ended. -/
def Spot.open? : Spot → Option Open
  | .raise | .look | .retreat | .wait | .check => some { owed := 0, running := 0 }
  | .lower (.ok .released) => some { owed := 1, running := 0 }
  | .lower _ => some { owed := 0, running := 0 }
  | .enter | .clockIn | .job _ => some { owed := 1, running := 0 }
  | .working _ | .clockOut _ => some { owed := 0, running := 1 }
  | .sleep | .ended _ | .panicked => none

/-- An aperiodic loop has started a job for each release but those that are owed. -/
structure Owing (events : List Event) (l : Loop) (o : Open) : Prop where
  here : l.spot.open? = some o
  pace : l.pace = .aperiodic
  delivered : deliveries events = starts events + o.owed
  started : starts events = l.jobs + o.running

/-- How the releases and the jobs of an aperiodic loop stand to each other. -/
inductive Accounted (events : List Event) (l : Loop) : Prop
  | underway {o : Open} (owing : Owing events l o)
  /-- It returns as many as there were of both. -/
  | returned (here : l.spot = .ended (.ok l.jobs)) (delivered : deliveries events = l.jobs)
      (started : starts events = l.jobs)
  /-- A release goes without its job where the clock was refused. -/
  | failed {e : Error} (here : l.spot = .ended (.error e))
      (delivered : deliveries events = starts events ∨
        deliveries events = starts events + 1 ∧ .clock (.error e) ∈ events)
  | panicked (here : l.spot = .panicked) (delivered : deliveries events = starts events)

variable {events : List Event} {l l' : Loop} {e : Event} {o : Open} {spot : Spot}

/-- What is open is that of the place. -/
theorem Accounted.standing (accounted : Accounted events l) (here : l.spot = spot)
    (there : spot.open? = some o := by rfl) : Owing events l o := by
  cases accounted with
  | underway owing =>
    have same := owing.here
    rw [here, there] at same
    cases same
    exact owing
  | returned ended | failed ended | panicked ended =>
    rw [← here, ended] at there
    cases there

/-- A loop goes on: an event that brings a release owes a job, and a job's start settles it. -/
theorem Owing.move (owing : Owing events l o) {next : Open} (there : l'.spot.open? = some next := by rfl)
    (pace : l'.pace = l.pace := by rfl) (jobs : l'.jobs = l.jobs := by rfl)
    (owed : next.owed + e.isStart.toNat = o.owed + e.isDelivery.toNat := by rfl)
    (running : next.running = o.running + e.isStart.toNat := by rfl) : Accounted (events ++ [e]) l' := by
  have delivered := owing.delivered
  have started := owing.started
  refine .underway (o := next) ⟨there, pace.trans owing.pace, ?_, ?_⟩
  · rw [deliveries_snoc, starts_snoc]
    omega
  · rw [starts_snoc, jobs, running]
    omega

/-- Where nothing is open, a loop may return its count. -/
theorem Owing.settle (owing : Owing events l { owed := 0, running := 0 }) (start : e.isStart = false := by rfl)
    (delivery : e.isDelivery = false := by rfl) : Accounted (events ++ [e]) { l with spot := .ended (.ok l.jobs) } := by
  have delivered := owing.delivered
  have started := owing.started
  apply Accounted.returned rfl
  · simp [deliveries_snoc, delivery, delivered, started]
  · simp [starts_snoc, start, started]

/-- A loop may fail anywhere, but between a release and its job only for want of the time. -/
theorem Owing.fail (owing : Owing events l o) (error : Error)
    (settled : o.owed = 0 ∨ o.owed = 1 ∧ e = .clock (.error error)) (start : e.isStart = false := by rfl)
    (delivery : e.isDelivery = false := by rfl) :
    Accounted (events ++ [e]) (l.fail error) := by
  have delivered := owing.delivered
  apply Accounted.failed rfl
  rcases settled with none | ⟨one, rfl⟩
  · left
    simp [deliveries_snoc, starts_snoc, start, delivery, delivered, none]
  · right
    simp [deliveries_snoc, starts_snoc, start, delivery, delivered, one]

/-- A job that is done counts, and the loop looks for a stop or returns its count. -/
theorem Owing.count (owing : Owing events l { owed := 0, running := 1 }) (sink : Sink)
    (start : e.isStart = false := by rfl) (delivery : e.isDelivery = false := by rfl) :
    Accounted (events ++ [e]) (jobDone { l with sink }) := by
  have delivered := owing.delivered
  have started := owing.started
  unfold jobDone
  dsimp only
  split
  · apply Accounted.returned rfl
    · simp [deliveries_snoc, delivery, delivered, started]
    · simp [starts_snoc, start, started]
  · refine .underway (o := { owed := 0, running := 0 }) ⟨rfl, owing.pace, ?_, ?_⟩
    · simp [deliveries_snoc, starts_snoc, start, delivery, delivered]
    · simp [starts_snoc, start, started]

/-- On its way to a job a loop owes it. -/
theorem open?_toJob (l : Loop) : l.toJob.spot.open? = some { owed := 1, running := 0 } := by
  rcases l.spot_toJob with clock | job
  · rw [clock]
    rfl
  · rw [job]
    rfl

theorem open?_released (l : Loop) : l.released.spot.open? = some { owed := 1, running := 0 } := by
  unfold released
  split
  · rfl
  · exact l.open?_toJob

theorem released_keeps (l : Loop) : l.released.pace = l.pace ∧ l.released.jobs = l.jobs := by
  unfold released
  split <;> exact ⟨rfl, rfl⟩

theorem again_of_aperiodic (aperiodic : l.pace = .aperiodic) : l.again = { l with spot := .raise } := by
  rw [again, aperiodic]

/-- **One step keeps the account.** -/
theorem Accounted.step (accounted : Accounted events l) (did : l.Did e l') :
    Accounted (events ++ [e]) l' := by
  cases did with
  | slept here | sleepless here =>
    -- A loop that sleeps is not aperiodic.
    cases accounted with
    | underway owing =>
      have none := owing.here
      rw [here] at none
      cases none
    | returned ended | failed ended | panicked ended =>
      rw [here] at ended
      cases ended
  | entered here found => exact (accounted.standing here).move l.open?_toJob
  | raised here found => exact (accounted.standing here).move
  | warned here stop => exact (accounted.standing here).move
  | unwarned here stop => exact (accounted.standing here).move
  | retreated here found => exact (accounted.standing here).settle
  | waited here outcome =>
    have owing := accounted.standing here
    match outcome with
    | .ok .released => exact owing.move
    | .ok .cancelled => exact owing.move
    | .error e => exact owing.move
  | released here found =>
    obtain ⟨pace, jobs⟩ := l.released_keeps
    exact (accounted.standing here).move l.open?_released pace jobs
  | cancelled here found => exact (accounted.standing here).settle
  | unwaited here found => exact (accounted.standing here).fail _ (.inl rfl)
  | clockedIn here start => exact (accounted.standing here).move
  | clocklessIn here error => exact (accounted.standing here).fail error (.inr ⟨rfl, rfl⟩)
  | started here outcome => exact (accounted.standing here).move
  | finished here wanted => exact (accounted.standing here).move
  | counted here unwanted => exact (accounted.standing here).count l.sink
  | failed here error => exact (accounted.standing here).fail error (.inl rfl)
  | panicked here =>
    have owing := accounted.standing here
    apply Accounted.panicked rfl
    rw [deliveries_snoc, starts_snoc, owing.delivered]
    rfl
  | clockedOut here finish => exact (accounted.standing here).count _
  | clocklessOut here error => exact (accounted.standing here).fail error (.inl rfl)
  | stopped here stop => exact (accounted.standing here).settle
  | wentOn here stop =>
    have owing := accounted.standing here
    rw [again_of_aperiodic owing.pace]
    exact owing.move

theorem accounted_aperiodic (maxJobs : Option UInt64) (sink : Sink) :
    Accounted [] (aperiodic maxJobs sink) :=
  .underway (o := { owed := 0, running := 0 }) ⟨rfl, rfl, rfl, rfl⟩

theorem Accounted.run {later : List Event} (accounted : Accounted events l) (run : Run next l later l') :
    Accounted (events ++ later) l' := by
  induction run generalizing events with
  | nil =>
    rw [List.append_nil]
    exact accounted
  | cons meets _ ih =>
    have after := ih (accounted.step (did_of_meets meets))
    rwa [List.append_assoc] at after

/-- **An aperiodic loop starts one job for each release**, as far as it has come. -/
theorem aperiodic_accounted {maxJobs : Option UInt64} {sink : Sink}
    (run : Run next (aperiodic maxJobs sink) events l) : Accounted events l :=
  (accounted_aperiodic maxJobs sink).run run

/-- Whatever is open, there are no more jobs than releases, and one less at most. -/
theorem Accounted.starts_le (accounted : Accounted events l) :
    starts events ≤ deliveries events ∧ deliveries events ≤ starts events + 1 := by
  cases accounted with
  | underway owing =>
    have delivered := owing.delivered
    have few : ∀ {spot : Spot} {o : Open}, spot.open? = some o → o.owed ≤ 1 := by
      intro spot o there
      unfold Spot.open? at there
      split at there <;> cases there <;> decide
    have := few owing.here
    omega
  | returned _ delivered started => omega
  | failed _ delivered =>
    rcases delivered with same | ⟨more, -⟩
    · omega
    · omega
  | panicked _ delivered => omega

/-- A loop that has returned a number has taken as many releases and started as many jobs. -/
theorem Accounted.of_returned (accounted : Accounted events l) {n : Nat} (here : l.spot = .ended (.ok n)) :
    deliveries events = n ∧ starts events = n := by
  cases accounted with
  | underway owing =>
    have none := owing.here
    rw [here] at none
    cases none
  | returned ended delivered started =>
    rw [here] at ended
    cases ended
    exact ⟨delivered, started⟩
  | failed ended =>
    rw [here] at ended
    cases ended
  | panicked ended =>
    rw [here] at ended
    cases ended

end Loop

end TaskTiming
