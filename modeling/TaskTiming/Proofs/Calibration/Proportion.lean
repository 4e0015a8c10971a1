import Mathlib.Algebra.Order.Floor.Div
import TaskTiming.Proofs.Calibration.Scaling

/-!
# Calibrations in proportion

What a calibration is scaled to depends on the ratio of two durations. A calibration is its own scaling to the
duration it was made for, and no longer duration has fewer rounds. Scaling once more loses what the first
scaling rounded off, stretched by the second ratio, and no more than that (`Scaled.chained`).
-/

namespace TaskTiming.Calibration
set_option autoImplicit false

variable {c : Calibration}

/-- There is a scaling to every duration but zero for which all numbers have room. -/
theorem exists_scaledTo_iff {duration : Time} : (∃ job, c.scaledTo duration = .ok job) ↔
    0 < duration.toNanos ∧ 0 < c.target.toNanos ∧ c.iterations.toNat * duration.toNanos < 2 ^ 128 ∧
      c.tolerance.toNanos * duration.toNanos < 2 ^ 128 ∧
      c.iterations.toNat * duration.toNanos / c.target.toNanos < 2 ^ 64 ∧
      c.tolerance.toNanos * duration.toNanos / c.target.toNanos ≤ Time.max.toNanos := by
  constructor
  · rintro ⟨job, made⟩
    obtain ⟨pos, scaled⟩ := scaledTo_eq_ok_iff.1 made
    refine ⟨pos, scaled.target_pos, scaled.rounds_lt, scaled.tolerance_lt, ?_, ?_⟩
    · rw [← scaled.rounds]
      exact job.iterations.toNat_lt
    · rw [← scaled.tolerance]
      exact job.tolerance.toNanos_le_max
  · rintro ⟨pos, target, roundsRoom, toleranceRoom, word, time⟩
    obtain ⟨tolerance, proportion⟩ := Time.exists_toNanos time
    have scaled : c.Scaled duration {
        c with
        iterations := UInt64.ofNat (c.iterations.toNat * duration.toNanos / c.target.toNanos)
        target := duration, tolerance } := {
      target_pos := target, rounds_lt := roundsRoom, tolerance_lt := toleranceRoom
      rounds := UInt64.toNat_ofNat_of_lt' word, tolerance := proportion
      target := rfl, cpu := rfl, frequency := rfl }
    exact ⟨_, scaledTo_eq_ok_iff.2 ⟨pos, scaled⟩⟩

/-- A calibration is its own scaling to its target. -/
theorem scaledTo_target (target : 0 < c.target.toNanos) (rounds : c.iterations.toNat * c.target.toNanos < 2 ^ 128)
    (tolerance : c.tolerance.toNanos * c.target.toNanos < 2 ^ 128) : c.scaledTo c.target = .ok c := by
  have scaled : c.Scaled c.target c := {
    target_pos := target, rounds_lt := rounds, tolerance_lt := tolerance
    rounds := (Nat.mul_div_cancel _ target).symm, tolerance := (Nat.mul_div_cancel _ target).symm
    target := rfl, cpu := rfl, frequency := rfl }
  exact scaledTo_eq_ok_iff.2 ⟨target, scaled⟩

section

variable {t t' : Time} {first second direct : Calibration}

/-- A longer duration has no fewer rounds. -/
theorem Scaled.mono (shorter : c.Scaled t first) (longer : c.Scaled t' direct) (le : t.toNanos ≤ t'.toNanos) :
    first.iterations.toNat ≤ direct.iterations.toNat := by
  rw [shorter.rounds, longer.rounds]
  exact Nat.div_le_div_right (Nat.mul_le_mul_left _ le)

/-- Two scalings in a row come to no more rounds than one, and miss at most as many as the second ratio. -/
theorem Scaled.chained (once : c.Scaled t first) (twice : first.Scaled t' second) (whole : c.Scaled t' direct) :
    second.iterations.toNat ≤ direct.iterations.toNat ∧
      direct.iterations.toNat ≤ second.iterations.toNat + t'.toNanos ⌈/⌉ t.toNanos := by
  obtain ⟨fits, full⟩ := once.fills
  obtain ⟨fits', full'⟩ := twice.fills
  obtain ⟨fits'', full''⟩ := whole.fills
  have pos : 0 < t.toNanos := once.target ▸ twice.target_pos
  have target := whole.target_pos
  rw [once.target] at fits' full'
  generalize t.toNanos = a, t'.toNanos = b at *
  generalize c.target.toNanos = T, c.iterations.toNat = N at *
  generalize first.iterations.toNat = q, second.iterations.toNat = x, direct.iterations.toNat = y at *
  constructor
  · -- x rounds of the chain take no longer than y + 1 direct ones would
    have less : x * (a * T) < (y + 1) * (a * T) := by
      calc x * (a * T)
        _ = x * a * T := (Nat.mul_assoc _ _ _).symm
        _ ≤ q * b * T := Nat.mul_le_mul_right T fits'
        _ = q * T * b := Nat.mul_right_comm _ _ _
        _ ≤ N * a * b := Nat.mul_le_mul_right b fits
        _ = N * b * a := Nat.mul_right_comm _ _ _
        _ < (y + 1) * T * a := Nat.mul_lt_mul_of_pos_right full'' pos
        _ = (y + 1) * (a * T) := by rw [Nat.mul_assoc, Nat.mul_comm T]
    exact Nat.le_of_lt_succ (Nat.lt_of_mul_lt_mul_right less)
  · have ratio : b ≤ a * (b ⌈/⌉ a) := (ceilDiv_le_iff_le_mul pos).1 (Nat.le_refl _)
    -- what one round of the first scaling is short of, the second ratio stretches
    have short : y * a ≤ (q + 1) * b := by
      apply Nat.le_of_mul_le_mul_right _ target
      calc y * a * T
        _ = y * T * a := Nat.mul_right_comm _ _ _
        _ ≤ N * b * a := Nat.mul_le_mul_right a fits''
        _ = N * a * b := Nat.mul_right_comm _ _ _
        _ ≤ (q + 1) * T * b := Nat.mul_le_mul_right b (Nat.le_of_lt full)
        _ = (q + 1) * b * T := Nat.mul_right_comm _ _ _
    have less : y * a < (x + b ⌈/⌉ a + 1) * a := by
      calc y * a
        _ ≤ q * b + b := by rwa [Nat.succ_mul] at short
        _ < (x + 1) * a + a * (b ⌈/⌉ a) := Nat.add_lt_add_of_lt_of_le full' ratio
        _ = (x + b ⌈/⌉ a + 1) * a := by rw [Nat.add_right_comm x, Nat.add_mul (x + 1), Nat.mul_comm a]
    exact Nat.le_of_lt_succ (Nat.lt_of_mul_lt_mul_right less)

end

/-- **Calibrations scale in proportion**: rounds and tolerance by the ratio of the durations without their
fractions, to the duration itself without a change, to longer ones without fewer rounds, and twice in a row with
a loss below the second ratio rounded up. -/
theorem calibrations_scale_in_proportion (c : Calibration) :
    (∀ t job, c.scaledTo t = .ok job → job.target = t ∧ job.cpu = c.cpu ∧ job.frequency = c.frequency ∧
      job.iterations.toNat = c.iterations.toNat * t.toNanos / c.target.toNanos ∧
      job.tolerance.toNanos = c.tolerance.toNanos * t.toNanos / c.target.toNanos) ∧
    (∀ t, (∃ job, c.scaledTo t = .ok job) ↔
      0 < t.toNanos ∧ 0 < c.target.toNanos ∧ c.iterations.toNat * t.toNanos < 2 ^ 128 ∧
        c.tolerance.toNanos * t.toNanos < 2 ^ 128 ∧
        c.iterations.toNat * t.toNanos / c.target.toNanos < 2 ^ 64 ∧
        c.tolerance.toNanos * t.toNanos / c.target.toNanos ≤ Time.max.toNanos) ∧
    (0 < c.target.toNanos → c.iterations.toNat * c.target.toNanos < 2 ^ 128 →
      c.tolerance.toNanos * c.target.toNanos < 2 ^ 128 → c.scaledTo c.target = .ok c) ∧
    (∀ t t' shorter longer, c.scaledTo t = .ok shorter → c.scaledTo t' = .ok longer → t ≤ t' →
      shorter.iterations ≤ longer.iterations) ∧
    (∀ t t' first second direct, c.scaledTo t = .ok first → first.scaledTo t' = .ok second →
      c.scaledTo t' = .ok direct → second.iterations.toNat ≤ direct.iterations.toNat ∧
        direct.iterations.toNat ≤ second.iterations.toNat + t'.toNanos ⌈/⌉ t.toNanos) := by
  refine ⟨?_, fun t => exists_scaledTo_iff, scaledTo_target, ?_, ?_⟩
  · intro t job made
    obtain ⟨-, scaled⟩ := scaledTo_eq_ok_iff.1 made
    exact ⟨scaled.target, scaled.cpu, scaled.frequency, scaled.rounds, scaled.tolerance⟩
  · intro t t' shorter longer made made' le
    have few := (scaledTo_eq_ok_iff.1 made).2.mono (scaledTo_eq_ok_iff.1 made').2 (Time.le_iff_toNanos.1 le)
    exact UInt64.le_iff_toNat_le.2 few
  · intro t t' first second direct made chained whole
    exact (scaledTo_eq_ok_iff.1 made).2.chained (scaledTo_eq_ok_iff.1 chained).2 (scaledTo_eq_ok_iff.1 whole).2

/-- From 1000 rounds in 1 ms, 10 µs have ten rounds; by way of 1500 ns, which have one, they have six. -/
theorem calibrations_scale_in_proportion_twice :
    let c : Calibration := {
      cpu := 3, frequency := some 2400000000, iterations := 1000, target := .ofNanos 1000000
      tolerance := .ofNanos 10000 }
    let first : Calibration := { c with iterations := 1, target := .ofNanos 1500, tolerance := .ofNanos 15 }
    let second : Calibration := { c with iterations := 6, target := .ofNanos 10000, tolerance := .ofNanos 100 }
    let direct : Calibration := { c with iterations := 10, target := .ofNanos 10000, tolerance := .ofNanos 100 }
    c.scaledTo c.target = .ok c ∧ c.scaledTo (.ofNanos 1500) = .ok first ∧
    first.scaledTo (.ofNanos 10000) = .ok second ∧ c.scaledTo (.ofNanos 10000) = .ok direct ∧
    (∃ job, c.scaledTo (.ofNanos 7) = .ok job) ∧
    first.iterations.toNat = c.iterations.toNat * (Time.ofNanos 1500).toNanos / c.target.toNanos ∧
    first.iterations ≤ direct.iterations ∧ second.iterations.toNat ≤ direct.iterations.toNat ∧
    direct.iterations.toNat ≤
      second.iterations.toNat + (Time.ofNanos 10000).toNanos ⌈/⌉ (Time.ofNanos 1500).toNanos := by
  intro c first second direct
  obtain ⟨exact, accepted, same, mono, chained⟩ := calibrations_scale_in_proportion c
  have once : c.scaledTo (.ofNanos 1500) = .ok first :=
    scaledTo_eq_ok_iff.2 ⟨by decide, by constructor <;> decide⟩
  have twice : first.scaledTo (.ofNanos 10000) = .ok second :=
    scaledTo_eq_ok_iff.2 ⟨by decide, by constructor <;> decide⟩
  have whole : c.scaledTo (.ofNanos 10000) = .ok direct :=
    scaledTo_eq_ok_iff.2 ⟨by decide, by constructor <;> decide⟩
  obtain ⟨-, -, -, rounds, -⟩ := exact _ _ once
  refine ⟨same (by decide) (by decide) (by decide), once, twice, whole, (accepted _).2 (by decide), rounds,
    ?_, ?_⟩
  · exact mono _ _ _ _ once whole (by decide)
  · exact chained _ _ _ _ _ once twice whole

end TaskTiming.Calibration
