import TaskTiming.Proofs.Time.Exactness

/-!
# Carrying nanoseconds into seconds

A time is made of seconds and of nanoseconds that may be several seconds themselves. The seconds take the carry
as far as they can, and the rest of the nanoseconds stays in any case (`toNanos_carrying`). So the time is the
one asked for, and beyond the longest time the longest one, unless the carry does not fit and the rest is not
the largest one: then the time falls short of both (`carrying_is_clamped_iff_lossless`).
-/

namespace TaskTiming.Time
set_option autoImplicit false

/-- The nanoseconds that are asked for. -/
def asked (sec : UInt64) (nsec : UInt32) : Nat := 1000000000 * sec.toNat + nsec.toNat

/-- The seconds take the carry. -/
def CarryFits (sec : UInt64) (nsec : UInt32) : Prop := sec.toNat + nsec.toNat / 1000000000 < 2 ^ 64

instance (sec : UInt64) (nsec : UInt32) : Decidable (CarryFits sec nsec) :=
  inferInstanceAs (Decidable (_ < _))

/-- The seconds take the carry, or what stays beside them is all that fits there. -/
def Lossless (sec : UInt64) (nsec : UInt32) : Prop :=
  CarryFits sec nsec ∨ nsec.toNat % 1000000000 = 999999999

instance (sec : UInt64) (nsec : UInt32) : Decidable (Lossless sec nsec) :=
  inferInstanceAs (Decidable (_ ∨ _))

variable {sec : UInt64} {nsec : UInt32}

/-! ## What the two words come to -/

/-- The carry stops at the largest word. -/
theorem toNat_sec_carrying (sec : UInt64) (nsec : UInt32) :
    (carrying sec nsec).sec.toNat = min (sec.toNat + nsec.toNat / 1000000000) (2 ^ 64 - 1) := by
  have carry : (nsec / 1000000000).toUInt64.toNat = nsec.toNat / 1000000000 := by
    rw [UInt32.toNat_toUInt64, UInt32.toNat_div, toNat_second]
  rw [← carry]
  exact Word.toNat_addClamped _ _

/-- The rest of the nanoseconds does not know of the carry. -/
theorem toNanos_carrying (sec : UInt64) (nsec : UInt32) :
    (carrying sec nsec).toNanos =
      1000000000 * min (sec.toNat + nsec.toNat / 1000000000) (2 ^ 64 - 1) + nsec.toNat % 1000000000 := by
  have rest : (carrying sec nsec).nsec.toNat = nsec.toNat % 1000000000 := UInt32.toNat_mod _ _
  rw [toNanos, toNat_sec_carrying, rest, nanosPerSec]

/-- The carry fits exactly if there is a time of so many nanoseconds. -/
theorem carryFits_iff : CarryFits sec nsec ↔ asked sec nsec ≤ max.toNanos := by
  rw [CarryFits, asked, toNanos_max, nanosPerSec]
  omega

theorem toNanos_carrying_of_fits (fits : CarryFits sec nsec) : (carrying sec nsec).toNanos = asked sec nsec := by
  unfold CarryFits at fits
  rw [toNanos_carrying, asked]
  omega

/-- Without the carry, the longest time is missed by what the rest of the nanoseconds lacks. -/
theorem toNanos_carrying_of_lost (lost : ¬CarryFits sec nsec) :
    (carrying sec nsec).toNanos + (999999999 - nsec.toNat % 1000000000) = max.toNanos := by
  unfold CarryFits at lost
  rw [toNanos_carrying, toNanos_max, nanosPerSec]
  omega

theorem toNanos_carrying_eq_min_iff :
    (carrying sec nsec).toNanos = min (asked sec nsec) max.toNanos ↔ Lossless sec nsec := by
  unfold Lossless
  by_cases fits : CarryFits sec nsec
  · rw [toNanos_carrying_of_fits fits, Nat.min_eq_left (carryFits_iff.1 fits)]
    exact iff_of_true rfl (.inl fits)
  · have beyond : ¬asked sec nsec ≤ max.toNanos := mt carryFits_iff.2 fits
    have short := toNanos_carrying_of_lost fits
    rw [Nat.min_eq_right (by omega), or_iff_right fits]
    omega

/-! ## The clamped operations -/

/-- A time that stops at the longest one is the same exactly if nothing is lost. -/
theorem carrying_eq_iff {t : Time} (clamped : t.toNanos = min (asked sec nsec) max.toNanos) :
    carrying sec nsec = t ↔ Lossless sec nsec := by
  rw [← toNanos_inj, clamped, toNanos_carrying_eq_min_iff]

theorem toNanos_ofSecs (n : UInt64) : (ofSecs n).toNanos = 1000000000 * n.toNat := rfl

theorem toNanos_ofNanos (n : UInt32) : (ofNanos n.toUInt64).toNanos = n.toNat := by
  have small := n.toNat_lt
  rw [ofNanos, toNanos_ofNanosClamped, UInt32.toNat_toUInt64, toNanos_max, nanosPerSec]
  omega

theorem toNanos_sum (sec : UInt64) (nsec : UInt32) :
    (ofSecs sec + ofNanos nsec.toUInt64).toNanos = min (asked sec nsec) max.toNanos := by
  rw [add_eq, toNanos_ofNanosClamped, toNanos_ofSecs, toNanos_ofNanos, asked]

/-- So many times one second. -/
theorem second_mul (n : UInt64) : ofSecs 1 * n = ofSecs n := by
  apply ext_toNanos
  have most := (ofSecs n).toNanos_le_max
  rw [toNanos_ofSecs] at most
  rw [mul_eq, toNanos_ofNanosClamped, toNanos_ofSecs, toNanos_ofSecs, UInt64.toNat_one, Nat.mul_one]
  omega

/-! ## Order -/

theorem carrying_le_of_sec_le {later : UInt64} (le : sec ≤ later) : carrying sec nsec ≤ carrying later nsec := by
  rw [UInt64.le_iff_toNat_le] at le
  rw [le_iff_toNanos, toNanos_carrying, toNanos_carrying]
  omega

/-- More nanoseconds make a shorter time where their carry is lost at the largest second, and with it more
than the rest has gained. -/
theorem carrying_le_iff_of_nsec_le {more : UInt32} (le : nsec ≤ more) :
    carrying sec nsec ≤ carrying sec more ↔
      CarryFits sec more ∨ (carrying sec nsec).sec < Word.max64 ∨
        nsec.toNat % 1000000000 ≤ more.toNat % 1000000000 := by
  rw [UInt32.le_iff_toNat_le] at le
  rw [le_iff_toNanos, toNanos_carrying, toNanos_carrying, UInt64.lt_iff_toNat_lt, toNat_sec_carrying,
    Word.toNat_max64, CarryFits]
  omega

/-- **Carrying agrees with the clamped operations exactly if nothing is lost.** A time made of seconds and
nanoseconds is the one asked for where the carry fits. Where it does not, the longest time is missed by what
the rest of the nanoseconds lacks. So the time is the smaller one of the time asked for and the longest one,
and what the clamped conversion, sum and product come to, exactly if there is no such rest. More seconds never
make the time shorter; more nanoseconds do so exactly if their carry is lost at the largest second and the rest
is smaller. -/
theorem carrying_is_clamped_iff_lossless (sec : UInt64) (nsec : UInt32) :
    ((carrying sec nsec).toNanos = min (asked sec nsec) max.toNanos ↔ Lossless sec nsec) ∧
    (CarryFits sec nsec ↔ asked sec nsec ≤ max.toNanos) ∧
    (CarryFits sec nsec → (carrying sec nsec).toNanos = asked sec nsec) ∧
    (¬CarryFits sec nsec →
      (carrying sec nsec).toNanos + (999999999 - nsec.toNat % 1000000000) = max.toNanos) ∧
    (carrying sec nsec = ofNanosClamped (asked sec nsec) ↔ Lossless sec nsec) ∧
    (carrying sec nsec = ofSecs sec + ofNanos nsec.toUInt64 ↔ Lossless sec nsec) ∧
    (carrying sec nsec = ofSecs 1 * sec + ofNanos nsec.toUInt64 ↔ Lossless sec nsec) ∧
    (∀ later, sec ≤ later → carrying sec nsec ≤ carrying later nsec) ∧
    ∀ more, nsec ≤ more → (carrying sec nsec ≤ carrying sec more ↔
      CarryFits sec more ∨ (carrying sec nsec).sec < Word.max64 ∨
        nsec.toNat % 1000000000 ≤ more.toNat % 1000000000) := by
  refine ⟨toNanos_carrying_eq_min_iff, carryFits_iff, toNanos_carrying_of_fits, toNanos_carrying_of_lost,
    carrying_eq_iff (toNanos_ofNanosClamped _), carrying_eq_iff (toNanos_sum _ _), ?_,
    fun _ => carrying_le_of_sec_le, fun _ => carrying_le_iff_of_nsec_le⟩
  rw [second_mul]
  exact carrying_eq_iff (toNanos_sum _ _)

/-- At the largest second the longest time is made of the largest rest, and one nanosecond more makes one that
is almost a second shorter. -/
theorem carrying_is_clamped_iff_lossless_last :
    CarryFits Word.max64 999999999 ∧ ¬CarryFits Word.max64 1000000000 ∧ (999999999 : UInt32) ≤ 1000000000 ∧
    (carrying Word.max64 999999999).toNanos = asked Word.max64 999999999 ∧
    (carrying Word.max64 1000000000).toNanos + 999999999 = max.toNanos ∧
    ¬carrying Word.max64 999999999 ≤ carrying Word.max64 1000000000 := by
  have fits : CarryFits Word.max64 999999999 := by decide
  have lost : ¬CarryFits Word.max64 1000000000 := by decide
  have le : (999999999 : UInt32) ≤ 1000000000 := by decide
  obtain ⟨-, -, exact, -, -, -, -, -, order⟩ := carrying_is_clamped_iff_lossless Word.max64 999999999
  obtain ⟨-, -, -, short, -⟩ := carrying_is_clamped_iff_lossless Word.max64 1000000000
  refine ⟨fits, lost, le, exact fits, short lost, ?_⟩
  rw [order _ le]
  decide

/-- **Carrying may miss the longest time**: beyond it, the time is neither the longest one nor what the clamped
sum comes to, and it is before the one with a nanosecond less. -/
theorem carrying_misses_longest_time :
    (carrying Word.max64 1000000000).toNanos ≠ min (asked Word.max64 1000000000) max.toNanos ∧
    carrying Word.max64 1000000000 ≠ ofSecs Word.max64 + ofNanos 1000000000 ∧
    carrying Word.max64 1000000000 < carrying Word.max64 999999999 := by
  decide

end TaskTiming.Time
