import Mathlib.Algebra.Group.Nat.Defs
import TaskTiming.Time.Arith

/-!
# Exact arithmetic of times

A time is a word of seconds and a word of nanoseconds, and every operation works on the two words. Read as
numbers of nanoseconds the operations are those of the integers, refused or clamped where the result is no
time (`Exact`, `Clamped`), and the order is that of the numbers. On the way no word wraps: computed on bare
numbers, each step checked against the width of its word, the operations come to the same (`Pair`).
-/

namespace TaskTiming.Time
set_option autoImplicit false

/-! ## Checked results -/

/-- The answer of a computation whose exact result is a number of nanoseconds: the time of that number, and
where there is none, on which side of all times the number lies. -/
structure Exact (answer : Except TimeError Time) (n : Int) : Prop where
  time : ∀ t, answer = .ok t ↔ (t.toNanos : Int) = n
  overflow : answer = .error .overflow ↔ (max.toNanos : Int) < n
  underflow : answer = .error .underflow ↔ n < 0

/-- Within the range of the times there is an answer. -/
theorem Exact.exists_time {answer : Except TimeError Time} {n : Int} (exact : Exact answer n) (nonneg : 0 ≤ n)
    (fits : n ≤ max.toNanos) : ∃ t, answer = .ok t ∧ (t.toNanos : Int) = n := by
  obtain ⟨t, same⟩ := exists_toNanos (n := n.toNat) (by omega)
  have time : (t.toNanos : Int) = n := by omega
  exact ⟨t, (exact.time t).2 time, time⟩

theorem exact_ofNanos? (n : Nat) : Exact (ofNanos? n) n where
  time t := by
    rw [ofNanos?_eq_ok]
    omega
  overflow := by
    rw [ofNanos?_eq_error, Int.ofNat_lt]
    exact ⟨And.right, fun lt => ⟨rfl, lt⟩⟩
  underflow := by
    rw [ofNanos?_eq_error]
    constructor
    · rintro ⟨wrong, -⟩
      cases wrong
    · intro negative
      omega

theorem exact_add? (a b : Time) : Exact (a.add? b) (a.toNanos + b.toNanos) := by
  rw [add?_eq]
  exact exact_ofNanos? _

theorem exact_mul? (t : Time) (factor : UInt64) : Exact (t.mul? factor) (t.toNanos * factor.toNat) := by
  rw [mul?_eq]
  exact exact_ofNanos? _

theorem exact_sub? (a b : Time) : Exact (a.sub? b) (a.toNanos - b.toNanos) := by
  rw [sub?_eq]
  by_cases less : a.toNanos < b.toNanos
  · rw [if_pos less]
    refine ⟨fun t => ⟨nofun, fun same => ?_⟩, ⟨nofun, fun large => ?_⟩, ⟨fun _ => ?_, fun _ => rfl⟩⟩
    all_goals omega
  · rw [if_neg less, ← Int.ofNat_sub (Nat.le_of_not_lt less)]
    exact exact_ofNanos? _

/-! ## Clamped results -/

/-- The time that is nearest to a number of nanoseconds. -/
def Clamped (t : Time) (n : Int) : Prop := (t.toNanos : Int) = Max.max 0 (min n max.toNanos)

theorem clamped_ofNanosClamped (n : Nat) : Clamped (ofNanosClamped n) n := by
  rw [Clamped, toNanos_ofNanosClamped]
  omega

theorem clamped_add (a b : Time) : Clamped (a + b) (a.toNanos + b.toNanos) := by
  rw [add_eq]
  exact clamped_ofNanosClamped _

theorem clamped_mul (t : Time) (factor : UInt64) : Clamped (t * factor) (t.toNanos * factor.toNat) := by
  rw [mul_eq]
  exact clamped_ofNanosClamped _

theorem clamped_subClamped (a b : Time) : Clamped (a.subClamped b) (a.toNanos - b.toNanos) := by
  have most := a.toNanos_le_max
  rw [Clamped, toNanos_subClamped]
  omega

/-! ## Widths of words -/

/-- A sum or product in a word of so many bits; nothing if it does not fit. -/
def inWord (bits n : Nat) : Option Nat := if n < 2 ^ bits then some n else none

/-- A difference of words; nothing if it is below zero. -/
def minus? (a b : Nat) : Option Nat := if b ≤ a then some (a - b) else none

/-- Seconds and nanoseconds as bare numbers. -/
structure Pair where
  sec : Nat
  nsec : Nat
deriving DecidableEq

def pair (t : Time) : Pair := { sec := t.sec.toNat, nsec := t.nsec.toNat }

/-- How a computation on bare numbers ends; there is no answer if a step left its word. -/
abbrev Pair.Answer := Option (Except TimeError Pair)

namespace Pair

/-- The number of nanoseconds, in 128 bits. -/
def toNanos? (p : Pair) : Option Nat := do
  let whole ← inWord 128 (1000000000 * p.sec)
  inWord 128 (whole + p.nsec)

/-- The seconds and nanoseconds in a number of nanoseconds. -/
def ofNanos? (n : Nat) : Answer :=
  match inWord 64 (n / 1000000000) with
  | none => some (.error .overflow)
  | some sec => do
    let nsec ← inWord 32 (n % 1000000000)
    return .ok { sec, nsec }

/-- Adds the words, and carries. -/
def add? (a b : Pair) : Answer :=
  match inWord 64 (a.sec + b.sec) with
  | none => some (.error .overflow)
  | some sec => do
    let nsec ← inWord 32 (a.nsec + b.nsec)
    if nsec < 1000000000 then return .ok { sec, nsec }
    let nsec ← minus? nsec 1000000000
    match inWord 64 (sec + 1) with
    | none => return .error .overflow
    | some sec => return .ok { sec, nsec }

/-- Takes the words off, and borrows. -/
def sub? (a b : Pair) : Answer :=
  if a.sec < b.sec ∨ a.sec = b.sec ∧ a.nsec < b.nsec then some (.error .underflow)
  else if b.nsec ≤ a.nsec then do
    let sec ← minus? a.sec b.sec
    let nsec ← minus? a.nsec b.nsec
    return .ok { sec, nsec }
  else do
    let sec ← minus? a.sec b.sec
    let sec ← minus? sec 1
    let nsec ← inWord 32 (1000000000 + a.nsec)
    let nsec ← minus? nsec b.nsec
    return .ok { sec, nsec }

/-- Multiplies the number of nanoseconds. -/
def mul? (p : Pair) (factor : Nat) : Answer := do
  let nanos ← p.toNanos?
  match inWord 128 (nanos * factor) with
  | none => return .error .overflow
  | some product => ofNanos? product

end Pair

theorem inWord_of_lt {bits n : Nat} (fits : n < 2 ^ bits) : inWord bits n = some n := if_pos fits

theorem inWord_of_le {bits n : Nat} (wide : 2 ^ bits ≤ n) : inWord bits n = none := if_neg (by omega)

theorem minus?_of_le {a b : Nat} (le : b ≤ a) : minus? a b = some (a - b) := if_pos le

theorem pair_sec_lt (t : Time) : t.pair.sec < 2 ^ 64 := t.sec.toNat_lt

theorem pair_nsec_lt (t : Time) : t.pair.nsec < 1000000000 := t.nsec_lt

theorem toNanos_eq (t : Time) : t.toNanos = 1000000000 * t.pair.sec + t.pair.nsec := rfl

/-- Bare numbers that are a time are the answer for their nanoseconds. -/
theorem map_pair_ofNanos? {n : Nat} (sec nsec : Nat) (sec_lt : sec < 2 ^ 64) (nsec_lt : nsec < 1000000000)
    (same : 1000000000 * sec + nsec = n) : (ofNanos? n).map pair = .ok { sec, nsec } := by
  let t : Time := {
    sec := UInt64.ofNatLT sec sec_lt
    nsec := UInt32.ofNatLT nsec (lt_size32 nsec_lt)
    nsec_lt := by rw [UInt32.toNat_ofNatLT]; exact nsec_lt }
  have time : ofNanos? n = .ok t := by
    rw [ofNanos?_eq_ok]
    exact same
  rw [time]
  rfl

/-- Too many seconds for their word are no time. -/
theorem map_pair_overflow {n : Nat} (late : 1000000000 * 2 ^ 64 ≤ n) :
    (ofNanos? n).map pair = .error .overflow := by
  rw [ofNanos?_overflow]
  · rfl
  · rw [toNanos_max, nanosPerSec]
    omega

theorem pair_toNanos? (t : Time) : t.pair.toNanos? = some t.toNanos := by
  have sec := t.pair_sec_lt
  have whole : inWord 128 (1000000000 * t.pair.sec) = some (1000000000 * t.pair.sec) :=
    inWord_of_lt (by omega)
  have sum : inWord 128 (1000000000 * t.pair.sec + t.pair.nsec) = some t.toNanos :=
    inWord_of_lt (Nat.lt_of_le_of_lt t.toNanos_le_max toNanos_max_lt)
  simp only [Pair.toNanos?, whole, Option.bind_eq_bind, Option.bind_some, sum]

theorem pair_ofNanos? (n : Nat) : Pair.ofNanos? n = some ((ofNanos? n).map pair) := by
  have nsec : n % 1000000000 < 1000000000 := Nat.mod_lt _ (by decide)
  have small : inWord 32 (n % 1000000000) = some (n % 1000000000) := inWord_of_lt (by omega)
  unfold Pair.ofNanos?
  rcases Nat.lt_or_ge (n / 1000000000) (2 ^ 64) with sec | late
  · rw [inWord_of_lt sec, map_pair_ofNanos? _ _ sec nsec (Nat.div_add_mod n 1000000000)]
    simp only [small]
    rfl
  · rw [inWord_of_le late, map_pair_overflow (by omega)]

theorem pair_add? (a b : Time) : a.pair.add? b.pair = some ((a.add? b).map pair) := by
  have aNsec := a.pair_nsec_lt
  have bNsec := b.pair_nsec_lt
  have small : inWord 32 (a.pair.nsec + b.pair.nsec) = some (a.pair.nsec + b.pair.nsec) :=
    inWord_of_lt (by omega)
  rw [add?_eq, toNanos_eq, toNanos_eq, Pair.add?]
  simp only [small, Option.bind_eq_bind, Option.bind_some]
  rcases Nat.lt_or_ge (a.pair.sec + b.pair.sec) (2 ^ 64) with sec | late
  · simp only [inWord_of_lt sec]
    by_cases below : a.pair.nsec + b.pair.nsec < 1000000000
    · rw [if_pos below, map_pair_ofNanos? _ _ sec below (by omega)]
      rfl
    · have rest : minus? (a.pair.nsec + b.pair.nsec) 1000000000 =
          some (a.pair.nsec + b.pair.nsec - 1000000000) := minus?_of_le (by omega)
      rw [if_neg below, rest]
      simp only [Option.bind_some]
      rcases Nat.lt_or_ge (a.pair.sec + b.pair.sec + 1) (2 ^ 64) with next | late
      · rw [inWord_of_lt next, map_pair_ofNanos? (a.pair.sec + b.pair.sec + 1)
          (a.pair.nsec + b.pair.nsec - 1000000000) next (by omega) (by omega)]
        rfl
      · rw [inWord_of_le late, map_pair_overflow (by omega)]
        rfl
  · rw [inWord_of_le late, map_pair_overflow (by omega)]

theorem pair_sub? (a b : Time) : a.pair.sub? b.pair = some ((a.sub? b).map pair) := by
  have aSec := a.pair_sec_lt
  have aNsec := a.pair_nsec_lt
  have bNsec := b.pair_nsec_lt
  rw [sub?_eq, toNanos_eq, toNanos_eq]
  by_cases before : a.pair.sec < b.pair.sec ∨ a.pair.sec = b.pair.sec ∧ a.pair.nsec < b.pair.nsec
  · have negative : 1000000000 * a.pair.sec + a.pair.nsec < 1000000000 * b.pair.sec + b.pair.nsec := by omega
    rw [if_pos negative, Pair.sub?, if_pos before]
    rfl
  · have notNegative :
        ¬1000000000 * a.pair.sec + a.pair.nsec < 1000000000 * b.pair.sec + b.pair.nsec := by omega
    have sec : minus? a.pair.sec b.pair.sec = some (a.pair.sec - b.pair.sec) := minus?_of_le (by omega)
    rw [if_neg notNegative, Pair.sub?, if_neg before]
    simp only [sec, Option.bind_eq_bind, Option.bind_some]
    by_cases whole : b.pair.nsec ≤ a.pair.nsec
    · rw [if_pos whole, minus?_of_le whole, map_pair_ofNanos? (a.pair.sec - b.pair.sec)
        (a.pair.nsec - b.pair.nsec) (by omega) (by omega) (by omega)]
      rfl
    · have borrowed : inWord 32 (1000000000 + a.pair.nsec) = some (1000000000 + a.pair.nsec) :=
        inWord_of_lt (by omega)
      have nsec : minus? (1000000000 + a.pair.nsec) b.pair.nsec =
          some (1000000000 + a.pair.nsec - b.pair.nsec) := minus?_of_le (by omega)
      have rest : minus? (a.pair.sec - b.pair.sec) 1 = some (a.pair.sec - b.pair.sec - 1) :=
        minus?_of_le (by omega)
      rw [if_neg whole, map_pair_ofNanos? (a.pair.sec - b.pair.sec - 1)
        (1000000000 + a.pair.nsec - b.pair.nsec) (by omega) (by omega) (by omega)]
      simp only [rest, borrowed, nsec, Option.bind_some]
      rfl

theorem pair_mul? (t : Time) (factor : UInt64) :
    t.pair.mul? factor.toNat = some ((t.mul? factor).map pair) := by
  rw [mul?_eq, Pair.mul?, pair_toNanos?]
  simp only [Option.bind_eq_bind, Option.bind_some]
  rcases Nat.lt_or_ge (t.toNanos * factor.toNat) (2 ^ 128) with wide | late
  · rw [inWord_of_lt wide]
    exact pair_ofNanos? _
  · rw [inWord_of_le late, map_pair_overflow (by omega)]
    rfl

/-- A computation on bare numbers comes to the same as one on words: no step leaves its word, and an answer
has the seconds of a word and no full second of nanoseconds. -/
structure Carried (answer : Pair.Answer) (result : Except TimeError Time) : Prop where
  same : answer = some (result.map pair)
  normal : ∀ p, answer = some (.ok p) → p.sec < 2 ^ 64 ∧ p.nsec < 1000000000

theorem Carried.of_same {answer : Pair.Answer} {result : Except TimeError Time}
    (same : answer = some (result.map pair)) : Carried answer result where
  same := same
  normal p found := by
    subst same
    cases result with
    | error e => cases found
    | ok t =>
      cases found
      exact ⟨t.pair_sec_lt, t.pair_nsec_lt⟩

/-! ## All operations -/

/-- What the operations on two times, and on the first and a factor, come to. -/
structure Computed (a b : Time) (factor : UInt64) : Prop where
  sum : Exact (a.add? b) (a.toNanos + b.toNanos)
  difference : Exact (a.sub? b) (a.toNanos - b.toNanos)
  product : Exact (a.mul? factor) (a.toNanos * factor.toNat)
  clampedSum : Clamped (a + b) (a.toNanos + b.toNanos)
  clampedDifference : Clamped (a.subClamped b) (a.toNanos - b.toNanos)
  clampedProduct : Clamped (a * factor) (a.toNanos * factor.toNat)
  distance : (a.absDiff b).toNanos = ((a.toNanos : Int) - b.toNanos).natAbs

theorem computed (a b : Time) (factor : UInt64) : Computed a b factor where
  sum := exact_add? a b
  difference := exact_sub? a b
  product := exact_mul? a factor
  clampedSum := clamped_add a b
  clampedDifference := clamped_subClamped a b
  clampedProduct := clamped_mul a factor
  distance := toNanos_absDiff a b

/-- How two times compare. -/
structure Compared (a b : Time) : Prop where
  lt : a < b ↔ a.toNanos < b.toNanos
  le : a ≤ b ↔ a.toNanos ≤ b.toNanos
  eq : a = b ↔ a.toNanos = b.toNanos
  least : (min a b).toNanos = min a.toNanos b.toNanos
  greatest : (Max.max a b).toNanos = Max.max a.toNanos b.toNanos

theorem compared (a b : Time) : Compared a b where
  lt := lt_iff_toNanos
  le := le_iff_toNanos
  eq := toNanos_inj.symm
  least := toNanos_min a b
  greatest := toNanos_maxOf a b

/-- The steps of the operations stay in their words. -/
structure Fitting (a b : Time) (factor : UInt64) : Prop where
  nanos : a.pair.toNanos? = some a.toNanos
  sum : Carried (a.pair.add? b.pair) (a.add? b)
  difference : Carried (a.pair.sub? b.pair) (a.sub? b)
  product : Carried (a.pair.mul? factor.toNat) (a.mul? factor)

theorem fitting (a b : Time) (factor : UInt64) : Fitting a b factor where
  nanos := pair_toNanos? a
  sum := .of_same (pair_add? a b)
  difference := .of_same (pair_sub? a b)
  product := .of_same (pair_mul? a factor)

/-- **Arithmetic of times is exact.** Sums, differences and products are those of the nanoseconds, or say
that the result is too large or negative; clamped ones stop at the ends of the range; the order is that of
the nanoseconds; a number of nanoseconds is a time and back; and no word on the way wraps. -/
theorem arithmetic_is_exact (a b : Time) (factor : UInt64) (n : Nat) :
    Computed a b factor ∧ Compared a b ∧ (ofNanos? a.toNanos = .ok a ∧ Exact (ofNanos? n) n) ∧
      Fitting a b factor ∧ Carried (Pair.ofNanos? n) (ofNanos? n) :=
  ⟨computed a b factor, compared a b, ⟨ofNanos?_toNanos a, exact_ofNanos? n⟩, fitting a b factor,
    .of_same (pair_ofNanos? n)⟩

/-- The carry out of the nanoseconds is the one second too many. -/
example : ({ sec := Word.max64, nsec := 999999999 } : Time).add? { sec := 0, nsec := 1 } = .error .overflow :=
  rfl

end TaskTiming.Time
