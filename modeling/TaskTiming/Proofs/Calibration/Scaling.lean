import Mathlib.Algebra.Group.Nat.Defs
import TaskTiming.Calibration

/-!
# Scaled calibrations

A calibration that is scaled to another duration has its count and its tolerance in proportion, both without
their fractions (`scaledTo_eq_ok_iff`), so that its rounds fill the duration to within one round
(`Scaled.fills`). Nothing is asked of the count it comes to: a duration that is below the cost of one round is
scaled to as well (`scaledTo_without_round_iff`).
-/

namespace TaskTiming.Calibration
set_option autoImplicit false

/-- One calibration scaled to a duration is another one. -/
structure Scaled (c : Calibration) (duration : Time) (job : Calibration) : Prop where
  /-- The calibration took some time itself. -/
  target_pos : 0 < c.target.toNanos
  rounds_lt : c.iterations.toNat * duration.toNanos < 2 ^ 128
  tolerance_lt : c.tolerance.toNanos * duration.toNanos < 2 ^ 128
  rounds : job.iterations.toNat = c.iterations.toNat * duration.toNanos / c.target.toNanos
  tolerance : job.tolerance.toNanos = c.tolerance.toNanos * duration.toNanos / c.target.toNanos
  target : job.target = duration
  cpu : job.cpu = c.cpu
  frequency : job.frequency = c.frequency

/-- A calibration is scaled to every duration but zero, as long as the numbers have room. -/
theorem scaledTo_eq_ok_iff {c job : Calibration} {duration : Time} :
    c.scaledTo duration = .ok job ↔ 0 < duration.toNanos ∧ c.Scaled duration job := by
  unfold scaledTo
  by_cases zero : duration.isZero = true
  · rw [if_pos zero]
    rw [Time.isZero_iff_toNanos] at zero
    simp [zero]
  · rw [if_neg zero]
    have pos := Time.not_isZero_iff_toNanos.1 zero
    constructor
    · intro scaled
      cases count : rescale c.iterations duration c.target with
      | error e => rw [count] at scaled; cases scaled
      | ok w =>
        obtain ⟨target, fits, rounds⟩ := rescale_eq_ok.1 count
        rw [count] at scaled
        cases product : Word.mulWide? c.tolerance.toNanos duration.toNanos with
        | none => rw [product] at scaled; cases scaled
        | some n =>
          obtain ⟨rfl, wide⟩ := Word.mulWide?_eq_some.1 product
          rw [product] at scaled
          cases tolerance : Time.ofNanos? (c.tolerance.toNanos * duration.toNanos / c.target.toNanos) with
          | error e => simp only [tolerance] at scaled; cases scaled
          | ok t =>
            simp only [tolerance] at scaled
            cases scaled
            exact ⟨pos, target, fits, wide, rounds, Time.ofNanos?_eq_ok.1 tolerance, rfl, rfl, rfl⟩
    · rintro ⟨-, scaled⟩
      have count := rescale_eq_ok.2 ⟨scaled.target_pos, scaled.rounds_lt, scaled.rounds⟩
      have product := Word.mulWide?_eq_some.2 ⟨rfl, scaled.tolerance_lt⟩
      have tolerance := Time.ofNanos?_eq_ok.2 scaled.tolerance
      obtain ⟨cpu, frequency, iterations, target, tol⟩ := job
      obtain rfl : target = duration := scaled.target
      obtain rfl : cpu = c.cpu := scaled.cpu
      obtain rfl : frequency = c.frequency := scaled.frequency
      rw [count]
      dsimp only [bind, Except.bind]
      rw [product]
      dsimp only
      rw [tolerance]
      rfl

variable {c job : Calibration} {duration : Time}

/-- At the calibrated cost the rounds fit into the duration, and one more does not. -/
theorem Scaled.fills (scaled : c.Scaled duration job) :
    job.iterations.toNat * c.target.toNanos ≤ c.iterations.toNat * duration.toNanos ∧
      c.iterations.toNat * duration.toNanos < (job.iterations.toNat + 1) * c.target.toNanos := by
  rw [scaled.rounds]
  exact ⟨Nat.div_mul_le_self _ _, Nat.lt_mul_of_div_lt (Nat.lt_succ_self _) scaled.target_pos⟩

theorem Scaled.has_round_iff (scaled : c.Scaled duration job) :
    1 ≤ job.iterations.toNat ↔ c.target.toNanos ≤ c.iterations.toNat * duration.toNanos := by
  rw [scaled.rounds]
  exact Nat.one_le_div_iff scaled.target_pos

/-- A duration below the cost of one round is scaled to like any other, and comes to no round. -/
theorem scaledTo_without_round_iff (counted : 0 < c.iterations.toNat) :
    (∃ job, c.scaledTo duration = .ok job ∧ job.iterations = 0) ↔
      0 < duration.toNanos ∧ c.iterations.toNat * duration.toNanos < c.target.toNanos ∧
        c.tolerance.toNanos * duration.toNanos < 2 ^ 128 := by
  constructor
  · rintro ⟨job, made, none⟩
    obtain ⟨pos, scaled⟩ := scaledTo_eq_ok_iff.1 made
    have below := scaled.has_round_iff
    rw [none, UInt64.toNat_zero] at below
    exact ⟨pos, by omega, scaled.tolerance_lt⟩
  · rintro ⟨pos, below, wide⟩
    have target := c.target.toNanos_le_max
    have bound := Time.toNanos_max_lt
    -- the duration is shorter than the calibrated one, so the tolerance gets no larger
    have shorter : duration.toNanos ≤ c.target.toNanos :=
      Nat.le_trans (Nat.le_mul_of_pos_left _ counted) (Nat.le_of_lt below)
    have less : c.tolerance.toNanos * duration.toNanos / c.target.toNanos ≤ c.tolerance.toNanos := by
      apply Nat.div_le_of_le_mul
      rw [Nat.mul_comm c.target.toNanos]
      exact Nat.mul_le_mul_left _ shorter
    obtain ⟨tolerance, proportion⟩ := Time.exists_toNanos (Nat.le_trans less c.tolerance.toNanos_le_max)
    have scaled : c.Scaled duration { c with iterations := 0, target := duration, tolerance } := {
      target_pos := by omega, rounds_lt := by omega, tolerance_lt := wide
      rounds := (Nat.div_eq_of_lt below).symm, tolerance := proportion
      target := rfl, cpu := rfl, frequency := rfl }
    exact ⟨_, scaledTo_eq_ok_iff.2 ⟨pos, scaled⟩, rfl⟩

end TaskTiming.Calibration
