import TaskTiming.Time

/-!
# Arithmetic of times

Sums, differences and products, computed on seconds and nanoseconds and read through `Time.toNanos`:
the checked operations are exact or say why they are not (`add?_eq`, `sub?_eq`, `mul?_eq`), the
clamped ones stop at the ends of the range.
-/

namespace TaskTiming.Time
set_option autoImplicit false

theorem toNat_nanosum (a b : Time) : (a.nsec + b.nsec).toNat = a.nsec.toNat + b.nsec.toNat := by
  have ha := a.nsec_lt
  have hb := b.nsec_lt
  rw [UInt32.toNat_add, Nat.mod_eq_of_lt (by omega)]

theorem toNat_second : (1000000000 : UInt32).toNat = 1000000000 := rfl

/-- The sum, or `overflow` beyond the longest time. -/
def add? (a b : Time) : Except TimeError Time :=
  match Word.add? a.sec b.sec with
  | none => .error .overflow
  | some sec =>
    if h : (a.nsec + b.nsec).toNat < 1000000000 then
      .ok { sec, nsec := a.nsec + b.nsec, nsec_lt := h }
    else
      match Word.add? sec 1 with
      | none => .error .overflow
      | some sec =>
        .ok {
          sec
          nsec := a.nsec + b.nsec - 1000000000
          nsec_lt := by
            have ha := a.nsec_lt
            have hb := b.nsec_lt
            rw [toNat_nanosum] at h
            rw [UInt32.toNat_sub_of_le]
            · rw [toNat_nanosum]
              simp only [UInt32.reduceToNat]
              omega
            · rw [UInt32.le_iff_toNat_le, toNat_nanosum]
              simp only [UInt32.reduceToNat]
              omega }

theorem add?_eq (a b : Time) : add? a b = ofNanos? (a.toNanos + b.toNanos) := by
  have ha := a.nsec_lt
  have hb := b.nsec_lt
  symm
  unfold add?
  rw [Word.add?_eq]
  split
  · rename_i h
    rw [Word.ofNat?_eq_none] at h
    apply ofNanos?_overflow
    rw [toNanos_max]
    simp only [toNanos, nanosPerSec]
    omega
  · rename_i sec h
    rw [Word.ofNat?_eq_some] at h
    split
    · rename_i hn
      rw [ofNanos?_eq_ok]
      simp only [toNanos, nanosPerSec, toNat_nanosum]
      omega
    · rename_i hn
      rw [toNat_nanosum] at hn
      rw [Word.add?_eq]
      split
      · rename_i h1
        rw [Word.ofNat?_eq_none] at h1
        apply ofNanos?_overflow
        rw [toNanos_max]
        simp only [toNanos, nanosPerSec, UInt64.reduceToNat] at h1 ⊢
        omega
      · rename_i sec' h1
        rw [Word.ofNat?_eq_some] at h1
        rw [ofNanos?_eq_ok]
        simp only [toNanos, nanosPerSec, UInt64.reduceToNat] at h1 ⊢
        rw [UInt32.toNat_sub_of_le]
        · rw [toNat_nanosum]
          simp only [UInt32.reduceToNat]
          omega
        · rw [UInt32.le_iff_toNat_le, toNat_nanosum]
          simp only [UInt32.reduceToNat]
          omega

/-- The difference, or `underflow` when the second time is the longer one. -/
def sub? (a b : Time) : Except TimeError Time :=
  if a < b then .error .underflow
  else if h : b.nsec ≤ a.nsec then
    .ok {
      sec := a.sec - b.sec
      nsec := a.nsec - b.nsec
      nsec_lt := by
        have ha := a.nsec_lt
        rw [UInt32.toNat_sub_of_le _ _ h]
        omega }
  else
    .ok {
      sec := a.sec - b.sec - 1
      nsec := a.nsec + 1000000000 - b.nsec
      nsec_lt := by
        have ha := a.nsec_lt
        have hb := b.nsec_lt
        rw [UInt32.le_iff_toNat_le] at h
        have hs : (a.nsec + 1000000000).toNat = a.nsec.toNat + 1000000000 := by
          rw [UInt32.toNat_add, toNat_second, Nat.mod_eq_of_lt (by omega)]
        rw [UInt32.toNat_sub_of_le _ _ (by rw [UInt32.le_iff_toNat_le, hs]; omega), hs]
        omega }

theorem sub?_eq (a b : Time) :
    sub? a b = if a.toNanos < b.toNanos then .error .underflow
      else ofNanos? (a.toNanos - b.toNanos) := by
  have ha := a.nsec_lt
  have hb := b.nsec_lt
  unfold sub?
  by_cases hlt : a < b
  · rw [if_pos hlt, if_pos (lt_iff_toNanos.1 hlt)]
  · rw [if_neg hlt, if_neg (fun h => hlt (lt_iff_toNanos.2 h))]
    rw [lt_iff_toNanos] at hlt
    simp only [toNanos, nanosPerSec] at hlt
    symm
    split
    · rename_i h
      rw [ofNanos?_eq_ok]
      simp only [toNanos, nanosPerSec]
      rw [UInt32.toNat_sub_of_le _ _ h]
      rw [UInt32.le_iff_toNat_le] at h
      rw [UInt64.toNat_sub_of_le _ _ (by rw [UInt64.le_iff_toNat_le]; omega)]
      omega
    · rename_i h
      rw [UInt32.le_iff_toNat_le] at h
      rw [ofNanos?_eq_ok]
      have hs : (a.nsec + 1000000000).toNat = a.nsec.toNat + 1000000000 := by
        rw [UInt32.toNat_add, toNat_second, Nat.mod_eq_of_lt (by omega)]
      have hd : (a.sec - b.sec).toNat = a.sec.toNat - b.sec.toNat :=
        UInt64.toNat_sub_of_le _ _ (by rw [UInt64.le_iff_toNat_le]; omega)
      simp only [toNanos, nanosPerSec]
      rw [UInt32.toNat_sub_of_le _ _ (by rw [UInt32.le_iff_toNat_le, hs]; omega), hs,
        UInt64.toNat_sub_of_le _ _ (by rw [UInt64.le_iff_toNat_le, hd, UInt64.toNat_one]; omega), hd,
        UInt64.toNat_one]
      omega

theorem sub?_eq_ok_iff {a b t : Time} : a.sub? b = .ok t ↔ t.toNanos + b.toNanos = a.toNanos := by
  rw [sub?_eq]
  by_cases less : a.toNanos < b.toNanos
  · rw [if_pos less]
    constructor
    · nofun
    · intro sum
      omega
  · rw [if_neg less, ofNanos?_eq_ok]
    omega

/-- The difference, or zero when the second time is the longer one. -/
def subClamped (a b : Time) : Time := (sub? a b).toOption.getD zero

theorem toNanos_subClamped (a b : Time) : (subClamped a b).toNanos = a.toNanos - b.toNanos := by
  have hb := a.toNanos_le_max
  unfold subClamped
  rw [sub?_eq]
  split
  · rename_i h
    simp only [Except.toOption, Option.getD_none, zero, toNanos, UInt64.reduceToNat, UInt32.reduceToNat]
    simp only [toNanos] at h
    omega
  · cases h : ofNanos? (a.toNanos - b.toNanos) with
    | ok t => exact ofNanos?_eq_ok.1 h
    | error e =>
      have := (ofNanos?_eq_error.1 h).2
      omega

/-- A difference that is no less than zero is the clamped one. -/
theorem sub?_of_le {a b : Time} (le : b ≤ a) : a.sub? b = .ok (a.subClamped b) := by
  rw [le_iff_toNanos] at le
  rw [sub?_eq_ok_iff, toNanos_subClamped]
  omega

theorem sub?_of_lt {a b : Time} (lt : a < b) : a.sub? b = .error .underflow := if_pos lt

/-- The distance between two times. -/
def absDiff (a b : Time) : Time := if b ≤ a then subClamped a b else subClamped b a

theorem toNanos_absDiff (a b : Time) : (absDiff a b).toNanos = ((a.toNanos : Int) - b.toNanos).natAbs := by
  unfold absDiff
  split
  · rename_i le
    rw [le_iff_toNanos] at le
    rw [toNanos_subClamped]
    omega
  · rename_i lt
    rw [le_iff_toNanos] at lt
    rw [toNanos_subClamped]
    omega

/-- The product with a factor, or `overflow` beyond the longest time. -/
def mul? (t : Time) (factor : UInt64) : Except TimeError Time :=
  match Word.mulWide? t.toNanos factor.toNat with
  | none => .error .overflow
  | some n => ofNanos? n

theorem ofNanos?_of_wide {t : Time} {n : Nat} (h : Word.mulWide? t.toNanos n = none) :
    ofNanos? (t.toNanos * n) = .error .overflow :=
  ofNanos?_overflow (Nat.lt_of_lt_of_le toNanos_max_lt (Word.mulWide?_eq_none.1 h))

theorem mul?_eq (t : Time) (factor : UInt64) : mul? t factor = ofNanos? (t.toNanos * factor.toNat) := by
  unfold mul?
  split
  · rename_i h
    rw [ofNanos?_of_wide h]
  · rename_i n h
    rw [(Word.mulWide?_eq_some.1 h).1]

/-- The sum stops at the longest time. -/
instance : Add Time := ⟨fun a b => (add? a b).toOption.getD max⟩

/-- The product stops at the longest time. -/
instance : HMul Time UInt64 Time := ⟨fun t n => (mul? t n).toOption.getD max⟩

theorem add_eq (a b : Time) : a + b = ofNanosClamped (a.toNanos + b.toNanos) := by
  show (add? a b).toOption.getD max = _
  rw [add?_eq]
  rfl

theorem mul_eq (t : Time) (n : UInt64) : t * n = ofNanosClamped (t.toNanos * n.toNat) := by
  show (mul? t n).toOption.getD max = _
  rw [mul?_eq]
  rfl

/-- The time in seconds, rounded twice: the fraction to a double, and the sum. -/
def toFloat (t : Time) : Float := t.sec.toFloat + t.nsec.toFloat / 1000000000.0

end TaskTiming.Time
