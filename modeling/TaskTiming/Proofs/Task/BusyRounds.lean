import TaskTiming.Proofs.Task.MadeReady
import TaskTiming.Proofs.Calibration.Scaling

/-!
# The rounds of busy jobs

The overheads leave a budget of a worst-case execution time if they are shorter than it, and then the budget
is the exact difference; the clamped total of two long overheads errs on neither side
(`Overheads.effectiveBudget_eq_ok_iff`, `Overheads.effectiveBudget_eq_error_iff`). The rounds that fill the
budget are counted downwards. A busy job therefore takes no longer than it may, and with one more round it
would (`busy_jobs_stay_within_wcet`). Nothing else is asked of the count: the job of a budget below the cost of
one round has no round at all, and its task is accepted like any other (`busy_job_has_round_iff_paid`).
-/

namespace TaskTiming
set_option autoImplicit false

namespace Overheads

/-- What both overheads take together, in nanoseconds and without an end. -/
def nanos (o : Overheads) : Nat := o.jobStats.toNanos + o.finishToStart.toNanos

variable {o : Overheads} {wcet : Time}

/-- The budget is what remains, and it is something. -/
theorem effectiveBudget_eq_ok_iff {budget : Time} : o.effectiveBudget wcet = .ok budget ↔
    0 < budget.toNanos ∧ budget.toNanos + o.nanos = wcet.toNanos := by
  -- a total that was clamped is the longest time, which leaves nothing of any time
  have exact : wcet.sub? o.total = .ok budget ∧ 0 < budget.toNanos ↔
      0 < budget.toNanos ∧ budget.toNanos + o.nanos = wcet.toNanos := by
    have le := wcet.toNanos_le_max
    rw [Time.sub?_eq_ok_iff, toNanos_total, nanos]
    omega
  rw [← exact, effectiveBudget]
  cases left : wcet.sub? o.total with
  | error e => simp
  | ok t =>
    simp only [Result.refuse_eq_ok, Time.not_isZero_iff_toNanos, Except.ok.injEq]
    constructor
    · rintro ⟨pos, rfl⟩
      exact ⟨rfl, pos⟩
    · rintro ⟨rfl, pos⟩
      exact ⟨pos, rfl⟩

theorem fault_of_effectiveBudget {e : Error} (refused : o.effectiveBudget wcet = .error e) :
    e = .budget wcet o.total := by
  unfold effectiveBudget at refused
  cases left : wcet.sub? o.total with
  | error _ => rw [left] at refused; cases refused; rfl
  | ok t =>
    rw [left] at refused
    dsimp only at refused
    split at refused
    · cases refused; rfl
    · cases refused

/-- There is no budget if the overheads are as long as all of the time, and no other fault. -/
theorem effectiveBudget_eq_error_iff {e : Error} : o.effectiveBudget wcet = .error e ↔
    e = .budget wcet o.total ∧ wcet.toNanos ≤ o.nanos := by
  cases answer : o.effectiveBudget wcet with
  | ok budget =>
    have remains := effectiveBudget_eq_ok_iff.1 answer
    constructor
    · nofun
    · rintro ⟨-, le⟩
      omega
  | error fault =>
    obtain rfl := fault_of_effectiveBudget answer
    have short : wcet.toNanos ≤ o.nanos := by
      have le := wcet.toNanos_le_max
      apply Nat.le_of_not_lt
      intro long
      obtain ⟨budget, left⟩ := Time.exists_toNanos (n := wcet.toNanos - o.nanos) (by omega)
      have remains : o.effectiveBudget wcet = .ok budget :=
        effectiveBudget_eq_ok_iff.2 ⟨by omega, by omega⟩
      rw [remains] at answer
      cases answer
    constructor
    · intro same
      cases same
      exact ⟨rfl, short⟩
    · rintro ⟨rfl, -⟩
      rfl

end Overheads

/-- A job of so many rounds takes all of a worst-case execution time that the overheads leave, to within one
round, if a round costs what was calibrated. All times are multiplied by the calibrated rounds, so that
nothing has to be divided. -/
structure Calibration.Fills (c : Calibration) (o : Overheads) (wcet : Time) (rounds : Nat) : Prop where
  within : rounds * c.target.toNanos + c.iterations.toNat * o.nanos ≤ c.iterations.toNat * wcet.toNanos
  next : c.iterations.toNat * wcet.toNanos < (rounds + 1) * c.target.toNanos + c.iterations.toNat * o.nanos

namespace ReadyTask

variable {p : TaskParams} {t0 : Time} {c job : Calibration} {path : Path} {d : Disk} {task : ReadyTask}

/-- Only what was prepared is made ready. -/
theorem prepareBusy_of_newBusy (made : (newBusy p t0 c path d).1 = .ok (task, job)) :
    prepareBusy p t0 c path = .ok (task, job) := by
  unfold newBusy at made
  cases prepared : prepareBusy p t0 c path with
  | error e => rw [prepared] at made; cases made
  | ok busy =>
    obtain ⟨found, loop⟩ := busy
    rw [prepared] at made
    dsimp only at made
    cases saved : (found.create d).1 with
    | error e => rw [saved] at made; cases made
    | ok _ => rw [saved] at made; cases made; rfl

/-- A busy task is prepared from acceptable parameters that leave a budget, and its job is the calibration
scaled to that. -/
theorem prepareBusy_iff_scaled : (∃ task, prepareBusy p t0 c path = .ok (task, job)) ↔
    p.Acceptable t0 ∧ ∃ budget, 0 < budget.toNanos ∧ budget.toNanos + p.overheads.nanos = p.wcet.toNanos ∧
      c.Scaled budget job := by
  rw [← acceptable_iff_prepared]
  constructor
  · rintro ⟨task, prepared⟩
    obtain ⟨⟨budget, left, loop⟩, ready⟩ := prepareBusy_eq_ok_iff.1 prepared
    obtain ⟨pos, sum⟩ := Overheads.effectiveBudget_eq_ok_iff.1 left
    exact ⟨⟨task, ready⟩, budget, pos, sum, (Calibration.scaledTo_eq_ok_iff.1 loop).2⟩
  · rintro ⟨⟨task, ready⟩, budget, pos, sum, scaled⟩
    have left := Overheads.effectiveBudget_eq_ok_iff.2 ⟨pos, sum⟩
    have loop := Calibration.scaledTo_eq_ok_iff.2 ⟨pos, scaled⟩
    exact ⟨task, prepareBusy_eq_ok_iff.2 ⟨⟨budget, left, loop⟩, ready⟩⟩

/-- A busy task that is made ready runs the calibration scaled to its budget. -/
theorem scaled_of_newBusy (made : (newBusy p t0 c path d).1 = .ok (task, job)) :
    ∃ budget, budget.toNanos + p.overheads.nanos = p.wcet.toNanos ∧ c.Scaled budget job := by
  obtain ⟨-, budget, -, sum, scaled⟩ := prepareBusy_iff_scaled.1 ⟨task, prepareBusy_of_newBusy made⟩
  exact ⟨budget, sum, scaled⟩

/-- What can be prepared is made ready if the disk takes its log. -/
theorem newBusy_iff_scaled (works : Works d path (p.header t0)) :
    (∃ task, (newBusy p t0 c path d).1 = .ok (task, job)) ↔
      p.Acceptable t0 ∧ ∃ budget, 0 < budget.toNanos ∧ budget.toNanos + p.overheads.nanos = p.wcet.toNanos ∧
        c.Scaled budget job := by
  constructor
  · rintro ⟨task, made⟩
    exact prepareBusy_iff_scaled.1 ⟨task, prepareBusy_of_newBusy made⟩
  · intro scaled
    obtain ⟨task, prepared⟩ : ∃ task, prepareBusy p t0 c path = .ok (task, job) :=
      prepareBusy_iff_scaled.2 scaled
    obtain ⟨saved, -⟩ := create_of_prepared (prepareBusy_eq_ok_iff.1 prepared).2 works
    refine ⟨task, ?_⟩
    rw [newBusy, prepared]
    simp only [saved]
    rfl

/-- **Busy jobs stay within their worst-case execution time**, overheads and all, and use all of it but for
less than one round. There is no budget just if the exact sum of the overheads is no shorter than that time. -/
theorem busy_jobs_stay_within_wcet (made : (newBusy p t0 c path d).1 = .ok (task, job)) :
    c.Fills p.overheads p.wcet job.iterations.toNat ∧
    ∀ (o : Overheads) (wcet : Time) (e : Error), o.effectiveBudget wcet = .error e ↔
      e = .budget wcet o.total ∧ wcet.toNanos ≤ o.jobStats.toNanos + o.finishToStart.toNanos := by
  obtain ⟨budget, sum, scaled⟩ := scaled_of_newBusy made
  obtain ⟨fits, full⟩ := scaled.fills
  refine ⟨?_, fun o wcet e => Overheads.effectiveBudget_eq_error_iff⟩
  constructor
  · rw [← sum, Nat.mul_add]
    exact Nat.add_le_add_right fits _
  · rw [← sum, Nat.mul_add]
    exact Nat.add_lt_add_right full _

/-- Seven rounds of 1 µs are what 2500 ns of overheads leave of 10 µs; two overheads of the longest time
leave nothing of it. -/
theorem busy_jobs_stay_within_wcet_seven :
    let c : Calibration := {
      cpu := 0, frequency := none, iterations := 1000, target := .ofNanos 1000000, tolerance := .ofNanos 10000 }
    let p : TaskParams := {
      TaskParams.periodic "tau" (.ofNanos 10000) (.ofSecs 2) with
      overheads := { jobStats := .ofNanos 2000, finishToStart := .ofNanos 500 } }
    let d : Disk := { nodes := [], here := [], room := none }
    ∃ task job, (newBusy p (.ofSecs 5) c ⟨"log"⟩ d).1 = .ok (task, job) ∧ job.iterations = 7 ∧
      c.Fills p.overheads p.wcet 7 ∧
      ∃ e, Overheads.effectiveBudget { jobStats := .max, finishToStart := .max } .max = .error e := by
  intro c p d
  have works : Works d ⟨"log"⟩ (p.header (.ofSecs 5)) := fun bytes _ => Disk.createWith_of_unlimited rfl (fun _ => rfl) bytes
  have scaled : c.Scaled (.ofNanos 7500)
      { c with iterations := 7, target := .ofNanos 7500, tolerance := .ofNanos 75 } := by
    constructor <;> decide
  obtain ⟨task, made⟩ := (newBusy_iff_scaled works).2 ⟨by decide, .ofNanos 7500, by decide, by decide, scaled⟩
  obtain ⟨fills, refused⟩ := busy_jobs_stay_within_wcet made
  exact ⟨task, _, made, rfl, fills, _, (refused _ _ _).2 ⟨rfl, by decide⟩⟩

/-- The job of a busy task has a round if the budget is the cost of one or more. -/
theorem has_round_iff_of_newBusy (made : (newBusy p t0 c path d).1 = .ok (task, job)) :
    1 ≤ job.iterations.toNat ↔
      c.target.toNanos + c.iterations.toNat * p.overheads.nanos ≤ c.iterations.toNat * p.wcet.toNanos := by
  obtain ⟨budget, sum, scaled⟩ := scaled_of_newBusy made
  rw [scaled.has_round_iff, ← sum, Nat.mul_add]
  omega

/-- A task whose budget is below the cost of a round is made ready like any other, and its job is empty. -/
theorem newBusy_without_round_iff (works : Works d path (p.header t0)) (counted : 0 < c.iterations.toNat) :
    (∃ task job, (newBusy p t0 c path d).1 = .ok (task, job) ∧ job.iterations = 0) ↔
      p.Acceptable t0 ∧ p.overheads.nanos < p.wcet.toNanos ∧
        c.iterations.toNat * p.wcet.toNanos < c.target.toNanos + c.iterations.toNat * p.overheads.nanos ∧
        c.tolerance.toNanos * (p.wcet.toNanos - p.overheads.nanos) < 2 ^ 128 := by
  constructor
  · rintro ⟨task, job, made, none⟩
    obtain ⟨acceptable, budget, pos, sum, scaled⟩ := (newBusy_iff_scaled works).1 ⟨task, made⟩
    have loop := Calibration.scaledTo_eq_ok_iff.2 ⟨pos, scaled⟩
    obtain ⟨-, below, wide⟩ := (Calibration.scaledTo_without_round_iff counted).1 ⟨job, loop, none⟩
    refine ⟨acceptable, by omega, ?_, ?_⟩
    · rw [← sum, Nat.mul_add]
      omega
    · rwa [← sum, Nat.add_sub_cancel]
  · rintro ⟨acceptable, longer, below, wide⟩
    have le := p.wcet.toNanos_le_max
    obtain ⟨budget, remains⟩ := Time.exists_toNanos (n := p.wcet.toNanos - p.overheads.nanos) (by omega)
    have sum : budget.toNanos + p.overheads.nanos = p.wcet.toNanos := by omega
    rw [← sum, Nat.mul_add] at below
    rw [← remains] at wide
    obtain ⟨job, loop, none⟩ := (Calibration.scaledTo_without_round_iff counted).2 ⟨by omega, by omega, wide⟩
    obtain ⟨pos, scaled⟩ := Calibration.scaledTo_eq_ok_iff.1 loop
    obtain ⟨task, made⟩ := (newBusy_iff_scaled works).2 ⟨acceptable, budget, pos, sum, scaled⟩
    exact ⟨task, job, made, none⟩

/-- **A busy job has a round just if the budget pays for one**, and whether it has is not asked: where the
calibrated loop has rounds at all, what is too short for one of them comes to none and is accepted, be it a
duration that a calibration is scaled to or the budget of a task. -/
theorem busy_job_has_round_iff_paid (c : Calibration) :
    (∀ duration job, c.scaledTo duration = .ok job →
      (1 ≤ job.iterations.toNat ↔ c.target.toNanos ≤ c.iterations.toNat * duration.toNanos)) ∧
    (∀ p t0 path d task job, (newBusy p t0 c path d).1 = .ok (task, job) →
      (1 ≤ job.iterations.toNat ↔
        c.target.toNanos + c.iterations.toNat * p.overheads.nanos ≤ c.iterations.toNat * p.wcet.toNanos)) ∧
    (0 < c.iterations.toNat → ∀ duration, (∃ job, c.scaledTo duration = .ok job ∧ job.iterations = 0) ↔
      0 < duration.toNanos ∧ c.iterations.toNat * duration.toNanos < c.target.toNanos ∧
        c.tolerance.toNanos * duration.toNanos < 2 ^ 128) ∧
    (0 < c.iterations.toNat → ∀ p t0 path d, Works d path (p.header t0) →
      ((∃ task job, (newBusy p t0 c path d).1 = .ok (task, job) ∧ job.iterations = 0) ↔
        p.Acceptable t0 ∧ p.overheads.nanos < p.wcet.toNanos ∧
          c.iterations.toNat * p.wcet.toNanos < c.target.toNanos + c.iterations.toNat * p.overheads.nanos ∧
          c.tolerance.toNanos * (p.wcet.toNanos - p.overheads.nanos) < 2 ^ 128)) := by
  refine ⟨?_, ?_, ?_, ?_⟩
  · intro duration job made
    exact (Calibration.scaledTo_eq_ok_iff.1 made).2.has_round_iff
  · intro p t0 path d task job made
    exact has_round_iff_of_newBusy made
  · intro counted duration
    exact Calibration.scaledTo_without_round_iff counted
  · intro counted p t0 path d works
    exact newBusy_without_round_iff works counted

/-- 1000 rounds in 1 ms are one in 1 µs: the budget of 1 µs pays for it, and the one of 999 ns does not. -/
theorem busy_job_has_round_iff_paid_micro :
    let c : Calibration := {
      cpu := 0, frequency := none, iterations := 1000, target := .ofNanos 1000000, tolerance := .ofNanos 10000 }
    let p (budget : UInt64) := TaskParams.periodic "tau" (.ofNanos budget) (.ofSecs 2)
    let d : Disk := { nodes := [], here := [], room := none }
    (∃ job, c.scaledTo (.ofNanos 1000) = .ok job ∧ 1 ≤ job.iterations.toNat) ∧
    (∃ job, c.scaledTo (.ofNanos 999) = .ok job ∧ job.iterations = 0) ∧
    (∃ task job, (newBusy (p 1000) (.ofSecs 5) c ⟨"log"⟩ d).1 = .ok (task, job) ∧ 1 ≤ job.iterations.toNat) ∧
    (∃ task job, (newBusy (p 999) (.ofSecs 5) c ⟨"log"⟩ d).1 = .ok (task, job) ∧ job.iterations = 0) := by
  intro c p d
  have works (header : Log.Header) : Works d ⟨"log"⟩ header :=
    fun bytes _ => Disk.createWith_of_unlimited rfl (fun _ => rfl) bytes
  obtain ⟨scaled, busy, scaledNone, busyNone⟩ := busy_job_has_round_iff_paid c
  have one : c.Scaled (.ofNanos 1000)
      { c with iterations := 1, target := .ofNanos 1000, tolerance := .ofNanos 10 } := by
    constructor <;> decide
  have loop := Calibration.scaledTo_eq_ok_iff.2 ⟨by decide, one⟩
  obtain ⟨task, made⟩ := (newBusy_iff_scaled (works ((p 1000).header (.ofSecs 5)))).2
    ⟨by decide, .ofNanos 1000, by decide, by decide, one⟩
  refine ⟨⟨_, loop, ?_⟩, ?_, ⟨task, _, made, ?_⟩, ?_⟩
  · exact (scaled _ _ loop).2 (by decide)
  · exact (scaledNone (by decide) _).2 (by decide)
  · exact (busy _ _ _ _ _ _ made).2 (by decide)
  · exact (busyNone (by decide) _ _ _ _ (works _)).2 (by decide)

/-- With 1000 rounds in 1 ms, a calibration is scaled to 500 ns, and a task that may take no longer is made
ready; both jobs are empty. -/
theorem busy_job_without_a_round :
    let c : Calibration := {
      cpu := 0, frequency := none, iterations := 1000, target := .ofNanos 1000000, tolerance := .ofNanos 10000 }
    let p := TaskParams.periodic "tau" (.ofNanos 500) (.ofSecs 2)
    let d : Disk := { nodes := [], here := [], room := none }
    0 < c.iterations.toNat ∧ 0 < c.target.toNanos ∧ 0 < (Time.ofNanos 500).toNanos ∧
    (∃ job, c.scaledTo (.ofNanos 500) = .ok job ∧ ¬1 ≤ job.iterations.toNat) ∧
    ∃ task job, (newBusy p (.ofSecs 5) c ⟨"log"⟩ d).1 = .ok (task, job) ∧ ¬1 ≤ job.iterations.toNat := by
  intro c p d
  have works : Works d ⟨"log"⟩ (p.header (.ofSecs 5)) := fun bytes _ => Disk.createWith_of_unlimited rfl (fun _ => rfl) bytes
  have empty : c.Scaled (.ofNanos 500)
      { c with iterations := 0, target := .ofNanos 500, tolerance := .ofNanos 5 } := by
    constructor <;> decide
  have loop := Calibration.scaledTo_eq_ok_iff.2 ⟨by decide, empty⟩
  obtain ⟨task, made⟩ := (newBusy_iff_scaled works).2 ⟨by decide, .ofNanos 500, by decide, by decide, empty⟩
  exact ⟨by decide, by decide, by decide, ⟨_, loop, by decide⟩, task, _, made, by decide⟩

end ReadyTask

end TaskTiming
