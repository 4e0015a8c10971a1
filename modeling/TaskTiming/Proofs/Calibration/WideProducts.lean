import TaskTiming.Proofs.Calibration.Proportion

/-!
# The room of scaled calibrations

Rounds and tolerance of a calibration are multiplied by a duration before anything is divided, in 128 bits. A
product that has no room there is an abort and no error (`TooWide`), and what is refused with an error is said by
`Refuses`; all else is scaled (`scaledTo_eq_error_iff`). Few rounds with a small tolerance leave room for every
duration, and seconds of 32 bits leave room for each other (`room_of_small`, `room_of_words`).
-/

namespace TaskTiming.Calibration
set_option autoImplicit false

/-- What is wrong with a duration that a calibration is not scaled to. -/
inductive Refuses (c : Calibration) (duration : Time) : Error → Prop
  /-- There is nothing to scale to. -/
  | nothing (zero : duration.toNanos = 0) : Refuses c duration (.tooShort duration (.ofNanos 1))
  /-- The calibration took no time itself. -/
  | unmeasured (pos : 0 < duration.toNanos) (zero : c.target.toNanos = 0) :
      Refuses c duration (.calibration .zeroElapsed)
  /-- The count is no word. -/
  | manyRounds (pos : 0 < duration.toNanos) (target : 0 < c.target.toNanos)
      (fits : c.iterations.toNat * duration.toNanos < 2 ^ 128)
      (many : 2 ^ 64 ≤ c.iterations.toNat * duration.toNanos / c.target.toNanos) :
      Refuses c duration (.tooLong duration maxTarget)
  /-- The tolerance is no time. -/
  | longTolerance (pos : 0 < duration.toNanos) (target : 0 < c.target.toNanos)
      (fits : c.iterations.toNat * duration.toNanos < 2 ^ 128)
      (few : c.iterations.toNat * duration.toNanos / c.target.toNanos < 2 ^ 64)
      (toleranceFits : c.tolerance.toNanos * duration.toNanos < 2 ^ 128)
      (long : Time.max.toNanos < c.tolerance.toNanos * duration.toNanos / c.target.toNanos) :
      Refuses c duration .overflow

/-- One of the two products has no room. The tolerance is multiplied only where the count is a word. -/
structure TooWide (c : Calibration) (duration : Time) : Prop where
  duration_pos : 0 < duration.toNanos
  target_pos : 0 < c.target.toNanos
  wide : 2 ^ 128 ≤ c.iterations.toNat * duration.toNanos ∨
    c.iterations.toNat * duration.toNanos / c.target.toNanos < 2 ^ 64 ∧
      2 ^ 128 ≤ c.tolerance.toNanos * duration.toNanos

instance (c : Calibration) (duration : Time) : Decidable (c.TooWide duration) :=
  decidable_of_iff (0 < duration.toNanos ∧ 0 < c.target.toNanos ∧
      (2 ^ 128 ≤ c.iterations.toNat * duration.toNanos ∨
        c.iterations.toNat * duration.toNanos / c.target.toNanos < 2 ^ 64 ∧
          2 ^ 128 ≤ c.tolerance.toNanos * duration.toNanos))
    ⟨fun ⟨a, b, c⟩ => ⟨a, b, c⟩, fun ⟨a, b, c⟩ => ⟨a, b, c⟩⟩

variable {c : Calibration} {duration : Time} {e : Error}

/-- A duration that is neither refused nor too wide is scaled to. -/
theorem scaled_or_refused (c : Calibration) (duration : Time) :
    (∃ job, c.scaledTo duration = .ok job) ∨ (∃ e, c.Refuses duration e) ∨ c.TooWide duration := by
  by_cases zero : duration.toNanos = 0
  · exact .inr (.inl ⟨_, .nothing zero⟩)
  have pos := Nat.pos_of_ne_zero zero
  by_cases untimed : c.target.toNanos = 0
  · exact .inr (.inl ⟨_, .unmeasured pos untimed⟩)
  have target := Nat.pos_of_ne_zero untimed
  by_cases wide : 2 ^ 128 ≤ c.iterations.toNat * duration.toNanos
  · exact .inr (.inr ⟨pos, target, .inl wide⟩)
  have fits := Nat.lt_of_not_le wide
  by_cases many : 2 ^ 64 ≤ c.iterations.toNat * duration.toNanos / c.target.toNanos
  · exact .inr (.inl ⟨_, .manyRounds pos target fits many⟩)
  have few := Nat.lt_of_not_le many
  by_cases toleranceWide : 2 ^ 128 ≤ c.tolerance.toNanos * duration.toNanos
  · exact .inr (.inr ⟨pos, target, .inr ⟨few, toleranceWide⟩⟩)
  have toleranceFits := Nat.lt_of_not_le toleranceWide
  by_cases long : Time.max.toNanos < c.tolerance.toNanos * duration.toNanos / c.target.toNanos
  · exact .inr (.inl ⟨_, .longTolerance pos target fits few toleranceFits long⟩)
  exact .inl (exists_scaledTo_iff.2 ⟨pos, target, fits, toleranceFits, few, Nat.le_of_not_lt long⟩)

theorem scaledTo_of_refused (pos : 0 < duration.toNanos)
    (refused : rescale c.iterations duration c.target = .error e) : c.scaledTo duration = .error e := by
  rw [scaledTo, if_neg (Time.not_isZero_iff_toNanos.2 pos), refused]
  rfl

theorem Refuses.scaledTo (refuses : c.Refuses duration e) : c.scaledTo duration = .error e := by
  cases refuses with
  | nothing zero => rw [Calibration.scaledTo, if_pos (Time.isZero_iff_toNanos.2 zero)]
  | unmeasured pos zero => exact scaledTo_of_refused pos (rescale_of_zero zero)
  | manyRounds pos target fits many => exact scaledTo_of_refused pos (rescale_of_many target fits many)
  | longTolerance pos target fits few toleranceFits long =>
    rw [Calibration.scaledTo, if_neg (Time.not_isZero_iff_toNanos.2 pos), rescale_of_few target fits few]
    dsimp only [bind, Except.bind]
    rw [Word.mulWide?_eq_some.2 ⟨rfl, toleranceFits⟩]
    dsimp only
    rw [Time.ofNanos?_overflow long]
    rfl

theorem TooWide.scaledTo (wide : c.TooWide duration) :
    c.scaledTo duration = .error (.aborted .wideProduct) := by
  obtain ⟨pos, target, wide⟩ := wide
  by_cases rounds : 2 ^ 128 ≤ c.iterations.toNat * duration.toNanos
  · exact scaledTo_of_refused pos (rescale_of_wide target rounds)
  · obtain ⟨few, tolerance⟩ := wide.resolve_left rounds
    have fits := Nat.lt_of_not_le rounds
    rw [Calibration.scaledTo, if_neg (Time.not_isZero_iff_toNanos.2 pos), rescale_of_few target fits few]
    dsimp only [bind, Except.bind]
    rw [Word.mulWide?_eq_none.2 tolerance]

/-- Scaling ends with an error that says what is wrong, or with an abort where a product has no room. -/
theorem scaledTo_eq_error_iff :
    c.scaledTo duration = .error e ↔ c.Refuses duration e ∨ e = .aborted .wideProduct ∧ c.TooWide duration := by
  constructor
  · intro ends
    rcases scaled_or_refused c duration with ⟨job, scaled⟩ | ⟨e', refuses⟩ | wide
    · rw [scaled] at ends
      cases ends
    · rw [refuses.scaledTo] at ends
      cases ends
      exact .inl refuses
    · rw [wide.scaledTo] at ends
      cases ends
      exact .inr ⟨rfl, wide⟩
  · rintro (refuses | ⟨rfl, wide⟩)
    · exact refuses.scaledTo
    · exact wide.scaledTo

theorem Refuses.isAbort (refuses : c.Refuses duration e) : e.isAbort = false := by
  cases refuses <;> rfl

theorem scaledTo_eq_aborted_iff {abort : Abort} :
    c.scaledTo duration = .error (.aborted abort) ↔ abort = .wideProduct ∧ c.TooWide duration := by
  rw [scaledTo_eq_error_iff]
  constructor
  · rintro (refuses | ⟨same, wide⟩)
    · cases refuses.isAbort
    · cases same
      exact ⟨rfl, wide⟩
  · rintro ⟨rfl, wide⟩
    exact .inr ⟨rfl, wide⟩

/-- Every duration has room beside few rounds and a small tolerance. -/
theorem room_of_small (few : c.iterations.toNat ≤ 2 ^ 34) (small : c.tolerance.toNanos ≤ 2 ^ 34) :
    ¬c.TooWide duration := by
  have short : duration.toNanos < 1000000000 * 2 ^ 64 := duration.toNanos_lt
  rintro ⟨-, -, wide | ⟨-, wide⟩⟩
  · have le := Nat.mul_le_mul_right duration.toNanos few
    omega
  · have le := Nat.mul_le_mul_right duration.toNanos small
    omega

theorem toNanos_lt_of_sec {t : Time} (word : t.sec.toNat < 2 ^ 32) : t.toNanos < 2 ^ 62 := by
  have := t.nsec_lt
  simp only [Time.toNanos, Time.nanosPerSec]
  omega

/-- A duration with seconds of 32 bits has room beside a tolerance with such seconds, and any number of rounds. -/
theorem room_of_words (tolerance : c.tolerance.sec.toNat < 2 ^ 32) (word : duration.sec.toNat < 2 ^ 32) :
    ¬c.TooWide duration := by
  have short := toNanos_lt_of_sec word
  have small := toNanos_lt_of_sec tolerance
  rintro ⟨-, -, wide | ⟨-, wide⟩⟩
  · have lt := Nat.mul_lt_mul'' c.iterations.toNat_lt short
    omega
  · have lt := Nat.mul_lt_mul'' small short
    omega

end TaskTiming.Calibration
