import TaskTiming.Word

/-!
# Times

An instant of the monotonic clock or a duration: whole seconds and nanoseconds below one second.
`Time.toNanos` is the view through which every operation is read, and the order is the order of that
number (`lt_iff_toNanos`, `le_iff_toNanos`).
-/

namespace TaskTiming
set_option autoImplicit false

-- The bounds are powers of the core library, also where others are in sight.
attribute [local instance (2000)] instPowNat

/-- What is wrong with a text or a pair of words that should be a time. -/
inductive TimeFault
  /-- The part before the point is not a row of digits. -/
  | secondsNotDecimal
  /-- The part after the point is not at most nine digits. -/
  | fractionNotDecimal
  /-- A nanosecond count is not below one second. -/
  | nanosecondsOutOfRange
deriving DecidableEq, Repr

/-- The reason as it is reported. -/
def TimeFault.message : TimeFault → String
  | .secondsNotDecimal => "seconds must be decimal digits"
  | .fractionNotDecimal => "at most nine fractional digits"
  | .nanosecondsOutOfRange => "nanoseconds out of range"

/-- Failure of a computation with times or of a conversion to one. -/
inductive TimeError
  /-- The result would be negative. -/
  | underflow
  /-- The result does not fit its representation. -/
  | overflow
  /-- The input is no time. -/
  | malformed (fault : TimeFault)
deriving DecidableEq, Repr

def TimeError.message : TimeError → String
  | .underflow => "time subtraction underflow"
  | .overflow => "time value overflow"
  | .malformed fault => "invalid time value: " ++ fault.message

/-- An instant or a duration with nanosecond resolution. -/
structure Time where
  sec : UInt64
  nsec : UInt32
  nsec_lt : nsec.toNat < 1000000000 := by decide
deriving DecidableEq

namespace Time

/-- The nanoseconds in one second. -/
def nanosPerSec : Nat := 1000000000

/-- The time as a number of nanoseconds. -/
def toNanos (t : Time) : Nat := nanosPerSec * t.sec.toNat + t.nsec.toNat

def zero : Time := { sec := 0, nsec := 0 }

/-- The longest time. -/
def max : Time := { sec := Word.max64, nsec := 999999999 }

instance : Inhabited Time := ⟨zero⟩

def isZero (t : Time) : Bool := t.sec == 0 && t.nsec == 0

/-- A count below one second is a 32-bit word. -/
theorem lt_size32 {n : Nat} (h : n < 1000000000) : n < UInt32.size := Nat.lt_trans h (by decide)

theorem toNanos_lt (t : Time) : t.toNanos < nanosPerSec * 2 ^ (64 : Nat) := by
  have hs := t.sec.toNat_lt
  have hn := t.nsec_lt
  simp only [toNanos, nanosPerSec]
  omega

theorem toNanos_max : max.toNanos = nanosPerSec * 2 ^ (64 : Nat) - 1 := rfl

theorem toNanos_max_lt : max.toNanos < 2 ^ (128 : Nat) := by
  rw [toNanos_max]
  decide

theorem toNanos_le_max (t : Time) : t.toNanos ≤ max.toNanos := by
  have := t.toNanos_lt
  rw [toNanos_max]
  omega

/-- Two times of the same number of nanoseconds are the same. -/
theorem ext_toNanos {a b : Time} (h : a.toNanos = b.toNanos) : a = b := by
  obtain ⟨as, an, ha⟩ := a
  obtain ⟨bs, bn, hb⟩ := b
  simp only [toNanos, nanosPerSec] at h
  have hs : as = bs := UInt64.toNat_inj.1 (by omega)
  have hn : an = bn := UInt32.toNat_inj.1 (by omega)
  subst hs hn
  rfl

theorem toNanos_inj {a b : Time} : a.toNanos = b.toNanos ↔ a = b :=
  ⟨ext_toNanos, fun h => h ▸ rfl⟩

theorem isZero_iff {t : Time} : t.isZero = true ↔ t = zero := by
  obtain ⟨s, n, h⟩ := t
  simp [isZero, zero]

theorem isZero_iff_toNanos {t : Time} : t.isZero = true ↔ t.toNanos = 0 := by
  rw [isZero_iff, ← toNanos_inj]
  rfl

theorem not_isZero_iff_toNanos {t : Time} : ¬t.isZero = true ↔ 0 < t.toNanos := by
  rw [isZero_iff_toNanos, Nat.pos_iff_ne_zero]

/-- A number of nanoseconds as a time, if its seconds are a word. -/
def ofNanos? (n : Nat) : Except TimeError Time :=
  if h : n / nanosPerSec < 2 ^ (64 : Nat) then
    .ok {
      sec := UInt64.ofNatLT (n / nanosPerSec) h
      nsec := UInt32.ofNatLT (n % nanosPerSec) (lt_size32 (Nat.mod_lt _ (by decide)))
      nsec_lt := by rw [UInt32.toNat_ofNatLT]; exact Nat.mod_lt _ (by decide) }
  else .error .overflow

theorem ofNanos?_toNanos (t : Time) : ofNanos? t.toNanos = .ok t := by
  have hs := t.sec.toNat_lt
  have hn := t.nsec_lt
  have hq : t.toNanos / nanosPerSec = t.sec.toNat := by simp only [toNanos, nanosPerSec]; omega
  unfold ofNanos?
  rw [dif_pos (by omega)]
  congr 1
  apply ext_toNanos
  simp only [toNanos, nanosPerSec, UInt64.toNat_ofNatLT, UInt32.toNat_ofNatLT]
  omega

theorem ofNanos?_eq_ok {n : Nat} {t : Time} : ofNanos? n = .ok t ↔ t.toNanos = n := by
  constructor
  · unfold ofNanos?
    split
    · intro e
      cases e
      simp only [toNanos, nanosPerSec, UInt64.toNat_ofNatLT, UInt32.toNat_ofNatLT]
      omega
    · intro e
      cases e
  · rintro rfl
    exact ofNanos?_toNanos t

theorem ofNanos?_eq_error {n : Nat} {e : TimeError} :
    ofNanos? n = .error e ↔ e = .overflow ∧ max.toNanos < n := by
  rw [toNanos_max]
  unfold ofNanos?
  split
  · rename_i h
    simp only [nanosPerSec] at h ⊢
    constructor
    · intro h
      cases h
    · rintro ⟨-, h⟩
      omega
  · rename_i h
    simp only [nanosPerSec] at h ⊢
    constructor
    · intro h
      cases h
      exact ⟨rfl, by omega⟩
    · rintro ⟨rfl, -⟩
      rfl

theorem ofNanos?_overflow {n : Nat} (h : max.toNanos < n) : ofNanos? n = .error .overflow :=
  ofNanos?_eq_error.2 ⟨rfl, h⟩

/-- A number of nanoseconds as a time, or the longest one where it does not fit. -/
def ofNanosClamped (n : Nat) : Time := (ofNanos? n).toOption.getD max

theorem toNanos_ofNanosClamped (n : Nat) : (ofNanosClamped n).toNanos = min n max.toNanos := by
  unfold ofNanosClamped
  cases h : ofNanos? n with
  | ok t =>
    have := ofNanos?_eq_ok.1 h
    have := t.toNanos_le_max
    simp only [Except.toOption, Option.getD_some]
    omega
  | error e =>
    have := (ofNanos?_eq_error.1 h).2
    simp only [Except.toOption, Option.getD_none]
    omega

theorem exists_toNanos {n : Nat} (le : n ≤ max.toNanos) : ∃ t : Time, t.toNanos = n := by
  refine ⟨ofNanosClamped n, ?_⟩
  rw [toNanos_ofNanosClamped]
  exact Nat.min_eq_left le

/-- Seconds and nanoseconds, the nanoseconds beyond one second carried. At the largest second count
the carry is dropped and the rest of the nanoseconds stays. -/
def carrying (sec : UInt64) (nsec : UInt32) : Time where
  sec := Word.addClamped sec (nsec / 1000000000).toUInt64
  nsec := nsec % 1000000000
  nsec_lt := by
    rw [UInt32.toNat_mod]
    exact Nat.mod_lt _ (by decide)

def ofSecs (n : UInt64) : Time := { sec := n, nsec := 0 }
def ofMillis (n : UInt64) : Time := ofNanosClamped (1000000 * n.toNat)
def ofMicros (n : UInt64) : Time := ofNanosClamped (1000 * n.toNat)
def ofNanos (n : UInt64) : Time := ofNanosClamped n.toNat

/-! ## Order -/

instance : LT Time := ⟨fun a b => a.sec < b.sec ∨ a.sec = b.sec ∧ a.nsec < b.nsec⟩
instance : LE Time := ⟨fun a b => a < b ∨ a = b⟩

instance (a b : Time) : Decidable (a < b) :=
  inferInstanceAs (Decidable (a.sec < b.sec ∨ a.sec = b.sec ∧ a.nsec < b.nsec))

instance (a b : Time) : Decidable (a ≤ b) := inferInstanceAs (Decidable (a < b ∨ a = b))

instance : Min Time := minOfLe
instance : Max Time := maxOfLe

theorem lt_iff_toNanos {a b : Time} : a < b ↔ a.toNanos < b.toNanos := by
  have ha := a.nsec_lt
  have hb := b.nsec_lt
  show (a.sec < b.sec ∨ a.sec = b.sec ∧ a.nsec < b.nsec) ↔ _
  rw [UInt64.lt_iff_toNat_lt, UInt32.lt_iff_toNat_lt, ← UInt64.toNat_inj]
  simp only [toNanos, nanosPerSec]
  omega

theorem le_iff_toNanos {a b : Time} : a ≤ b ↔ a.toNanos ≤ b.toNanos := by
  show a < b ∨ a = b ↔ _
  rw [lt_iff_toNanos, ← toNanos_inj]
  omega

theorem not_lt {a b : Time} : ¬a < b ↔ b ≤ a := by
  rw [lt_iff_toNanos, le_iff_toNanos, Nat.not_lt]

theorem toNanos_min (a b : Time) : (min a b).toNanos = min a.toNanos b.toNanos := by
  show (if a ≤ b then a else b).toNanos = _
  split <;> rename_i h <;> rw [le_iff_toNanos] at h <;> omega

theorem toNanos_maxOf (a b : Time) : (Max.max a b).toNanos = Nat.max a.toNanos b.toNanos := by
  show (if a ≤ b then b else a).toNanos = _
  split <;> rename_i h <;> rw [le_iff_toNanos] at h <;> simp only [Nat.max_def] <;> split <;> omega

end Time

end TaskTiming
