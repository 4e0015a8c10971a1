import Mathlib.Algebra.Order.Ring.Abs
import TaskTiming.Proofs.Calibration.Convergence

/-!
# Contraction of one pass

What one pass of the search does to the error of its count. Of the error only the fixed cost's share is left, and
what the dropped fraction of a round is worth besides (`error_rescaled_le`). A count above the target comes down,
to no more than a round below it; any other one grows and stays below. So a pass over an affine cost does not
oscillate, however much of it is fixed (`rescale_contracts`).
-/

namespace TaskTiming.Calibration
set_option autoImplicit false

variable {a f target n : Nat}

/-- The counts come down to the target. -/
theorem rescaled_le_self (above : target ≤ cost a f n) : rescaled a f target n ≤ n := by
  apply Nat.div_le_of_le_mul
  rw [Nat.mul_comm (cost a f n)]
  exact Nat.mul_le_mul_left n above

/-- The next count is off by the fixed cost's share of the error, to within a round. -/
theorem error_rescaled_le (target : Nat) (round : 1 ≤ a) (pos : 1 ≤ n) :
    cost a f n * ((cost a f (rescaled a f target n) : Int) - target).natAbs ≤
      f * ((cost a f n : Int) - target).natAbs + a * cost a f n := by
  have least := rescaled_le a f target n
  have most := lt_rescaled f target round pos
  have next := cost_mul (a := a) (f := f) (rescaled a f target n) (cost a f n)
  generalize cost a f (rescaled a f target n) = c at next ⊢
  generalize cost a f n = m at least most next ⊢
  generalize a * rescaled a f target n * m = rounds at least most next
  zify at least most next ⊢
  -- up to the dropped fraction, the error that is left is the fixed cost's share
  have upper : m * (c - target) ≤ f * (m - target : ℤ) := by linarith
  have lower : f * (m - target : ℤ) ≤ m * (c - target) + a * m := by linarith
  calc (m : ℤ) * |(c - target : ℤ)|
    _ = |m * (c - target : ℤ)| := by rw [abs_mul, Nat.abs_cast]
    _ ≤ |f * (m - target : ℤ)| + a * m := by
      apply abs_le.2
      constructor
      · linarith [neg_abs_le (f * (m - target : ℤ))]
      · linarith [le_abs_self (f * (m - target : ℤ)), mul_nonneg (Int.natCast_nonneg a) (Int.natCast_nonneg m)]
    _ = f * |(m - target : ℤ)| + a * m := by rw [abs_mul, Nat.abs_cast]

/-- Without a fixed cost the next count is within a round below the target. -/
theorem rescaled_of_proportional (target : Nat) (round : 1 ≤ a) (pos : 1 ≤ n) :
    a * rescaled a 0 target n ≤ target ∧ target < a * rescaled a 0 target n + a := by
  have spent : 0 < cost a 0 n := cost_pos round pos
  constructor
  · apply Nat.le_of_mul_le_mul_right _ spent
    simpa using rescaled_le a 0 target n
  · apply Nat.lt_of_mul_lt_mul_right (a := cost a 0 n)
    rw [Nat.add_mul]
    simpa using lt_rescaled 0 target round pos

/-- A count that takes an affine cost is rescaled to another one, as long as the target is a word. -/
theorem rescale_of_affine {iterations : UInt64} {goal measured : Time} (round : 1 ≤ a)
    (pos : 1 ≤ iterations.toNat) (most : goal.toNanos < 2 ^ 64)
    (affine : measured.toNanos = cost a f iterations.toNat) :
    ∃ next, rescale iterations goal measured = .ok next ∧
      next.toNat = rescaled a f goal.toNanos iterations.toNat := by
  have few : rescaled a f goal.toNanos iterations.toNat < 2 ^ 64 :=
    Nat.lt_of_le_of_lt (rescaled_le_target round) most
  have fits : iterations.toNat * goal.toNanos < 2 ^ 64 * 2 ^ 64 := Nat.mul_lt_mul'' iterations.toNat_lt most
  refine ⟨UInt64.ofNat (rescaled a f goal.toNanos iterations.toNat), ?_, UInt64.toNat_ofNat_of_lt' few⟩
  unfold rescaled at few ⊢
  rw [← affine] at few ⊢
  exact rescale_of_few (affine ▸ cost_pos round pos) fits few

/-- **A pass over an affine cost contracts and does not oscillate**: the next count lies on the near side of the
target, or less than a round below it, and of the error no more than the fixed cost's share and a round is left. -/
theorem rescale_contracts (a f : Nat) (iterations : UInt64) (target measured : Time) (round : 1 ≤ a)
    (pos : 1 ≤ iterations.toNat) (most : target.toNanos ≤ 60000000000)
    (affine : measured.toNanos = a * iterations.toNat + f) :
    ∃ next, rescale iterations target measured = .ok next ∧
      (target ≤ measured → next ≤ iterations ∧ target.toNanos < a * next.toNat + f + a) ∧
      (measured ≤ target → iterations ≤ next ∧ a * next.toNat + f ≤ target.toNanos) ∧
      measured.toNanos * ((a * next.toNat + f : Int) - target.toNanos).natAbs ≤
        f * ((measured.toNanos : Int) - target.toNanos).natAbs + a * measured.toNanos ∧
      (f = 0 → a * next.toNat ≤ target.toNanos ∧ target.toNanos < a * next.toNat + a) := by
  obtain ⟨next, scaled, count⟩ := rescale_of_affine round pos (Nat.lt_of_le_of_lt most (by decide)) affine
  have small := error_rescaled_le (f := f) target.toNanos round pos
  have down : target.toNanos ≤ measured.toNanos →
      next.toNat ≤ iterations.toNat ∧ target.toNanos < a * next.toNat + f + a := by
    rw [affine, count]
    exact fun above => ⟨rescaled_le_self above, lt_cost_rescaled round pos above⟩
  have up : measured.toNanos ≤ target.toNanos →
      iterations.toNat ≤ next.toNat ∧ a * next.toNat + f ≤ target.toNanos := by
    rw [affine, count]
    exact fun below => ⟨le_rescaled round pos below, cost_rescaled_le round pos below⟩
  refine ⟨next, scaled, ?_, ?_, ?_, ?_⟩
  · rwa [Time.le_iff_toNanos, UInt64.le_iff_toNat_le]
  · rwa [Time.le_iff_toNanos, UInt64.le_iff_toNat_le]
  · rw [affine, count]
    exact small
  · rintro rfl
    rw [count]
    exact rescaled_of_proportional target.toNanos round pos

/-- Of the 240 µs that 1000 rounds take, 160 µs are fixed, far above a target of 10 µs: 41 rounds follow. -/
theorem rescale_contracts_fixed :
    let target : Time := .ofMicros 10
    let measured : Time := .ofMicros 240
    measured.toNanos = 80 * (1000 : UInt64).toNat + 160000 ∧ rescale 1000 target measured = .ok 41 ∧
      (41 : UInt64) ≤ 1000 ∧ target.toNanos < 80 * (41 : UInt64).toNat + 160000 + 80 ∧
      measured.toNanos * ((80 * (41 : UInt64).toNat + 160000 : Int) - target.toNanos).natAbs ≤
        160000 * ((measured.toNanos : Int) - target.toNanos).natAbs + 80 * measured.toNanos := by
  intro target measured
  have affine : measured.toNanos = 80 * (1000 : UInt64).toNat + 160000 := by decide
  have scaled : rescale 1000 target measured = .ok 41 := rescale_eq_ok.2 (by decide)
  obtain ⟨next, found, down, -, small, -⟩ :=
    rescale_contracts 80 160000 1000 target measured (by decide) (by decide) (by decide) affine
  rw [scaled] at found
  cases found
  obtain ⟨fewer, near⟩ := down (by decide)
  exact ⟨affine, scaled, fewer, near, small⟩

end TaskTiming.Calibration
