/-!
# Checked machine words

Sums, differences and products of 64-bit words that say when the exact result does not fit, and
products of 128-bit quantities, which are kept as numbers below `2 ^ 128`. Each operation has one
lemma that reads it in `Nat`.
-/

namespace TaskTiming.Word
set_option autoImplicit false

-- The bounds are powers of the core library, also where others are in sight.
attribute [local instance (2000)] instPowNat

/-- The largest 64-bit word. -/
def max64 : UInt64 := 18446744073709551615

theorem toNat_max64 : max64.toNat = 2 ^ (64 : Nat) - 1 := rfl

/-- A number as a 64-bit word, if it is one. -/
def ofNat? (n : Nat) : Option UInt64 :=
  if h : n < 2 ^ (64 : Nat) then some (UInt64.ofNatLT n h) else none

theorem ofNat?_eq_some {n : Nat} {w : UInt64} : ofNat? n = some w ↔ w.toNat = n := by
  unfold ofNat?
  split
  · rename_i h
    constructor
    · intro e; cases e; rfl
    · intro e; subst e; simp
  · rename_i h
    constructor
    · intro e; cases e
    · intro e; exact absurd (e ▸ w.toNat_lt) h

theorem ofNat?_eq_none {n : Nat} : ofNat? n = none ↔ 2 ^ (64 : Nat) ≤ n := by
  unfold ofNat?
  split <;> simp <;> omega

/-- Beyond the words there is the largest one. -/
theorem toNat_getD_ofNat? (n : Nat) : ((ofNat? n).getD max64).toNat = min n max64.toNat := by
  cases word : ofNat? n with
  | none =>
    have wide := ofNat?_eq_none.1 word
    rw [Option.getD_none, toNat_max64]
    omega
  | some w =>
    have same := ofNat?_eq_some.1 word
    have fits := w.toNat_lt
    rw [Option.getD_some, same, toNat_max64]
    omega

/-- The sum, if it is a word. -/
def add? (a b : UInt64) : Option UInt64 :=
  if a ≤ max64 - b then some (a + b) else none

theorem add?_eq (a b : UInt64) : add? a b = ofNat? (a.toNat + b.toNat) := by
  have ha := a.toNat_lt
  have hb := b.toNat_lt
  have hs : (max64 - b).toNat = 2 ^ (64 : Nat) - 1 - b.toNat := by
    rw [UInt64.toNat_sub_of_le]
    · rfl
    · rw [UInt64.le_iff_toNat_le, toNat_max64]; omega
  unfold add?
  split
  · rename_i h
    rw [UInt64.le_iff_toNat_le, hs] at h
    symm
    rw [ofNat?_eq_some, UInt64.toNat_add, Nat.mod_eq_of_lt (by omega)]
  · rename_i h
    rw [UInt64.le_iff_toNat_le, hs] at h
    symm
    rw [ofNat?_eq_none]
    omega

/-- The sum, or the largest word where it does not fit. -/
def addClamped (a b : UInt64) : UInt64 := (add? a b).getD max64

theorem toNat_addClamped (a b : UInt64) : (addClamped a b).toNat = min (a.toNat + b.toNat) max64.toNat := by
  unfold addClamped
  rw [add?_eq]
  exact toNat_getD_ofNat? _

/-- The product, if it is a word. -/
def mul? (a b : UInt64) : Option UInt64 := ofNat? (a.toNat * b.toNat)

/-- The product of two 128-bit quantities, if it is one. -/
def mulWide? (a b : Nat) : Option Nat :=
  if a * b < 2 ^ (128 : Nat) then some (a * b) else none

theorem mulWide?_eq_some {a b c : Nat} : mulWide? a b = some c ↔ c = a * b ∧ a * b < 2 ^ (128 : Nat) := by
  unfold mulWide?
  split <;> simp_all [eq_comm]

theorem mulWide?_eq_none {a b : Nat} : mulWide? a b = none ↔ 2 ^ (128 : Nat) ≤ a * b := by
  unfold mulWide?
  split <;> simp <;> omega

end TaskTiming.Word
