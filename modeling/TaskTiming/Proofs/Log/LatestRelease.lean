import Mathlib.Algebra.Group.Int.Defs
import Mathlib.Algebra.Group.Nat.Defs
import TaskTiming.Log.Summary

/-!
# The latest release

From the first release on, a periodic task has one release each period. Which of them is the latest one at or
before a start is found by a division, and the release is then computed by a product and a sum that stop at the
longest time. Neither of them stops: so many periods lie between the first release and the start
(`releaseOrdinal_mul_le`). And as long as the quotient is a word, one period more does not
(`latest_release_is_found`).
-/

namespace TaskTiming.Log
set_option autoImplicit false

variable {first period start : Time}

/-- So many periods have passed since the first release. -/
theorem releaseOrdinal_mul_le (first period start : Time) :
    (releaseOrdinal first period start).toNat * period.toNanos ≤ start.toNanos - first.toNanos := by
  rw [toNat_releaseOrdinal_eq]
  calc min ((start.toNanos - first.toNanos) / period.toNanos) Word.max64.toNat * period.toNanos
    _ ≤ (start.toNanos - first.toNanos) / period.toNanos * period.toNanos :=
      Nat.mul_le_mul_right _ (Nat.min_le_left _ _)
    _ ≤ start.toNanos - first.toNanos := Nat.div_mul_le_self _ _

/-- One period more has not passed, if so many are a word. -/
theorem lt_releaseOrdinal_succ_mul (pos : 0 < period.toNanos)
    (word : (start.toNanos - first.toNanos) / period.toNanos < 2 ^ 64) :
    start.toNanos - first.toNanos < ((releaseOrdinal first period start).toNat + 1) * period.toNanos := by
  rw [toNat_releaseOrdinal_eq, Word.toNat_max64, Nat.min_eq_left (Nat.le_sub_one_of_lt word), Nat.mul_comm]
  exact Nat.lt_mul_div_succ _ pos

/-- A start within a period behind a release is found to belong to it. -/
theorem toNat_releaseOrdinal {k : Nat} (word : k < 2 ^ 64)
    (behind : first.toNanos + k * period.toNanos ≤ start.toNanos)
    (before : start.toNanos < first.toNanos + (k + 1) * period.toNanos) :
    (releaseOrdinal first period start).toNat = k := by
  have ends : (k + 1) * period.toNanos = k * period.toNanos + period.toNanos := Nat.succ_mul k _
  have quotient : (start.toNanos - first.toNanos) / period.toNanos = k := by
    apply Nat.div_eq_of_lt_le
    · omega
    · omega
  rw [toNat_releaseOrdinal_eq, quotient, Word.toNat_max64]
  omega

/-- Up to the first release the index is that of the first release. -/
theorem releaseOrdinal_of_le (early : start ≤ first) : releaseOrdinal first period start = 0 := by
  apply UInt64.toNat_inj.1
  rw [toNat_releaseOrdinal_eq, Nat.sub_eq_zero_of_le (Time.le_iff_toNanos.1 early), Nat.zero_div, Nat.zero_min]
  rfl

/-- A later start does not belong to an earlier release. -/
theorem releaseOrdinal_mono {later : Time} (le : start ≤ later) :
    releaseOrdinal first period start ≤ releaseOrdinal first period later := by
  rw [Time.le_iff_toNanos] at le
  have quotient : (start.toNanos - first.toNanos) / period.toNanos ≤
      (later.toNanos - first.toNanos) / period.toNanos :=
    Nat.div_le_div_right (Nat.sub_le_sub_right le _)
  rw [UInt64.le_iff_toNat_le, toNat_releaseOrdinal_eq, toNat_releaseOrdinal_eq]
  omega

/-- Neither the product nor the sum that locate the release stop at the longest time. -/
theorem toNanos_release (first period start : Time) :
    (first + period * releaseOrdinal first period start).toNanos =
      first.toNanos + (releaseOrdinal first period start).toNat * period.toNanos := by
  have passed := releaseOrdinal_mul_le first period start
  have first_le := first.toNanos_le_max
  have start_le := start.toNanos_le_max
  rw [Time.add_eq, Time.toNanos_ofNanosClamped, Time.mul_eq, Time.toNanos_ofNanosClamped, Nat.mul_comm]
  omega

/-- The release of a start has this index: the latest one at or before it, or the first one. -/
structure BelongsTo (first period start : Time) (k : UInt64) : Prop where
  early : start ≤ first → k = 0
  behind : first < start → first.toNanos + k.toNat * period.toNanos ≤ start.toNanos
  before : first < start → start.toNanos < first.toNanos + (k.toNat + 1) * period.toNanos
  /-- The release is computed without a loss. -/
  located : (first + period * k).toNanos = first.toNanos + k.toNat * period.toNanos

/-- **The latest release is found.** As long as the quotient is a word, the index is that of the latest release
at or before a start, or of the first release where the start is not behind it. The clamped product and sum come
to that release exactly, and a later start never belongs to an earlier release. -/
theorem latest_release_is_found (first period start : Time) (pos : 0 < period.toNanos)
    (word : ((start.toNanos : Int) - first.toNanos) / period.toNanos < 2 ^ 64) :
    BelongsTo first period start (releaseOrdinal first period start) ∧
    ∀ later, start ≤ later → releaseOrdinal first period start ≤ releaseOrdinal first period later := by
  have passed := releaseOrdinal_mul_le first period start
  refine ⟨⟨releaseOrdinal_of_le, fun after => ?_, fun after => ?_, toNanos_release first period start⟩,
    fun later => releaseOrdinal_mono⟩
  · rw [Time.lt_iff_toNanos] at after
    omega
  · rw [Time.lt_iff_toNanos] at after
    rw [← Int.ofNat_sub (Nat.le_of_lt after)] at word
    have next := lt_releaseOrdinal_succ_mul pos (by exact_mod_cast word)
    omega

/-- The longest time as a start, a second as the period: the index is the largest word, and the release behind
that one would be beyond all times. -/
theorem latest_release_is_found_last :
    let second : Time := .ofSecs 1
    0 < second.toNanos ∧ ((Time.max.toNanos : Int) - Time.zero.toNanos) / second.toNanos < 2 ^ 64 ∧
    releaseOrdinal .zero second .max = Word.max64 ∧
    (Time.zero + second * Word.max64).toNanos = (2 ^ 64 - 1) * second.toNanos ∧
    Time.max.toNanos < 2 ^ 64 * second.toNanos ∧
    releaseOrdinal .zero second .zero ≤ Word.max64 := by
  intro second
  have zero : Time.zero.toNanos = 0 := rfl
  have one : second.toNanos = 1000000000 := rfl
  have longest : Time.max.toNanos = 18446744073709551615999999999 := Time.toNanos_max
  have pos : 0 < second.toNanos := by decide
  have word : ((Time.max.toNanos : Int) - Time.zero.toNanos) / second.toNanos < 2 ^ 64 := by
    rw [longest, zero, one]
    omega
  have word' : ((Time.zero.toNanos : Int) - Time.zero.toNanos) / second.toNanos < 2 ^ 64 := by
    rw [zero, one]
    omega
  have largest : releaseOrdinal .zero second .max = Word.max64 := by decide
  obtain ⟨belongs, -⟩ := latest_release_is_found .zero second .max pos word
  obtain ⟨-, mono⟩ := latest_release_is_found .zero second .zero pos word'
  rw [largest] at belongs
  have located := belongs.located
  have before := belongs.before (by decide)
  rw [zero, Nat.zero_add, Word.toNat_max64] at located before
  exact ⟨pos, word, largest, located, before, largest ▸ mono .max (by decide)⟩

/-- A start on the release belongs to it, a nanosecond earlier to the one before. -/
example : releaseOrdinal (.ofSecs 100) (.ofSecs 10) (.ofSecs 130) = 3 ∧
    releaseOrdinal (.ofSecs 100) (.ofSecs 10) ((Time.ofSecs 130).subClamped (.ofNanos 1)) = 2 := by decide

end TaskTiming.Log
