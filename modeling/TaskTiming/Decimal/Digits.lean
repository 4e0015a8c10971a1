/-!
# Decimal digits

Numbers written with ASCII digits, most significant first, and read back. Main statements: reading
what is written gives the number (`value_digits`), and `n` digits stand for a number below `10 ^ n`
(`value_lt`).
-/

namespace TaskTiming.Decimal
set_option autoImplicit false

-- The bounds are powers of the core library, also where others are in sight.
attribute [local instance (2000)] instPowNat

/-- The character is an ASCII digit. -/
def isDigit (c : Char) : Bool := decide (48 ≤ c.toNat) && decide (c.toNat ≤ 57)

/-- The number that a digit stands for. -/
def digitValue (c : Char) : Nat := c.toNat - 48

/-- The digit that stands for a number below ten. -/
def digit (n : Nat) : Char := Char.ofNat (48 + n % 10)

theorem toNat_digit (n : Nat) : (digit n).toNat = 48 + n % 10 := by
  have valid : (48 + n % 10).isValidChar := Or.inl (by omega)
  rw [digit, Char.ofNat, dif_pos valid]
  rfl

theorem digitValue_digit (n : Nat) : digitValue (digit n) = n % 10 := by
  rw [digitValue, toNat_digit]; omega

theorem isDigit_digit (n : Nat) : isDigit (digit n) = true := by
  simp [isDigit, toNat_digit]; omega

theorem digitValue_lt {c : Char} (h : isDigit c = true) : digitValue c < 10 := by
  simp [isDigit] at h; simp [digitValue]; omega

/-- The number that a row of digits stands for. -/
def value (s : List Char) : Nat := s.foldl (fun n c => 10 * n + digitValue c) 0

theorem foldl_digits (s : List Char) (n : Nat) :
    s.foldl (fun n c => 10 * n + digitValue c) n = n * 10 ^ s.length + value s := by
  induction s generalizing n with
  | nil => simp [value]
  | cons c s ih =>
    simp only [List.foldl_cons, value, List.length_cons]
    rw [ih, ih (10 * 0 + digitValue c), Nat.pow_succ, Nat.mul_comm 10 n]
    simp only [Nat.add_mul, Nat.mul_assoc, Nat.mul_comm 10]
    omega

theorem value_append (s t : List Char) : value (s ++ t) = value s * 10 ^ t.length + value t := by
  rw [value, List.foldl_append, foldl_digits]; rfl

theorem value_cons (c : Char) (s : List Char) :
    value (c :: s) = digitValue c * 10 ^ s.length + value s := by
  rw [← List.singleton_append, value_append]
  simp [value]

theorem value_lt {s : List Char} (h : s.all isDigit = true) : value s < 10 ^ s.length := by
  induction s with
  | nil => simp [value]
  | cons c s ih =>
    simp only [List.all_cons, Bool.and_eq_true] at h
    have hc := digitValue_lt h.1
    have hs := ih h.2
    rw [value_cons, List.length_cons, Nat.pow_succ]
    have := Nat.mul_le_mul_right (10 ^ s.length) (Nat.le_of_lt_succ hc)
    omega

/-- The shortest row of digits for a number: no leading zero, except for zero itself. -/
def digits (n : Nat) : List Char :=
  if n < 10 then [digit n] else digits (n / 10) ++ [digit n]
termination_by n

theorem value_digits (n : Nat) : value (digits n) = n := by
  induction n using digits.induct with
  | case1 n h =>
    rw [digits, if_pos h]
    simp [value, digitValue_digit]; omega
  | case2 n h ih =>
    rw [digits, if_neg h, value_append, ih]
    simp [value, digitValue_digit]; omega

theorem all_digits (n : Nat) : (digits n).all isDigit = true := by
  induction n using digits.induct with
  | case1 n h => rw [digits, if_pos h]; simp [isDigit_digit]
  | case2 n h ih => rw [digits, if_neg h]; simp [isDigit_digit, ih]

theorem digits_ne_nil (n : Nat) : digits n ≠ [] := by
  rw [digits]; split <;> simp

/-- Only zero begins with a zero. -/
theorem eq_zero_of_head_digits {n : Nat} (zero : (digits n).head? = some '0') : n = 0 := by
  induction n using digits.induct with
  | case1 n small =>
    rw [digits, if_pos small] at zero
    have here : digit n = '0' := by simpa using zero
    have same := toNat_digit n
    rw [here] at same
    simp only [Char.reduceToNat] at same
    omega
  | case2 n large ih =>
    rw [digits, if_neg large, List.head?_append] at zero
    cases front : (digits (n / 10)).head? with
    | none => exact absurd (List.head?_eq_none_iff.1 front) (digits_ne_nil _)
    | some c =>
      rw [front] at zero ih
      have := ih zero
      omega

theorem length_digits_le {width n : Nat} (some : 0 < width) (fits : n < 10 ^ width) :
    (digits n).length ≤ width := by
  induction n using digits.induct generalizing width with
  | case1 n small =>
    rw [digits, if_pos small]
    exact some
  | case2 n large ih =>
    obtain ⟨less, rfl⟩ : ∃ less, width = less + 1 := ⟨width - 1, by omega⟩
    rw [Nat.pow_succ] at fits
    have behind : 0 < less := by
      apply Nat.pos_of_ne_zero
      rintro rfl
      omega
    have := ih behind (by omega)
    rw [digits, if_neg large, List.length_append, List.length_singleton]
    omega

/-- A number with at least `width` digits, filled up with zeros in front. -/
def padded (width n : Nat) : List Char := (digits n).leftpad width '0'

theorem all_padded (width n : Nat) : (padded width n).all isDigit = true := by
  have zeros : (List.replicate (width - (digits n).length) '0').all isDigit = true := by
    rw [List.all_replicate]
    split <;> rfl
  rw [padded, List.leftpad, List.all_append, zeros, all_digits]
  rfl

theorem length_padded {width n : Nat} (some : 0 < width) (fits : n < 10 ^ width) :
    (padded width n).length = width := by
  have := length_digits_le some fits
  rw [padded, List.length_leftpad]
  omega

theorem value_padded (width n : Nat) : value (padded width n) = n := by
  have zeros : ∀ k, value (List.replicate k '0') = 0 := by
    intro k
    induction k with
    | zero => rfl
    | succ k ih => rw [List.replicate_succ, value_cons, ih]; simp [digitValue]
  rw [padded, List.leftpad, value_append, zeros, value_digits]
  simp

/-- The decimal text of a number. -/
def text (n : Nat) : String := String.ofList (digits n)

/-- The decimal text of an integer. -/
def intText : Int → String
  | .ofNat n => text n
  | .negSucc n => "-" ++ text (n + 1)

/-- The number that a text of one or more digits stands for; a single `+` in front is allowed. -/
def unsigned? (s : List Char) : Option Nat :=
  let body := if s.head? = some '+' then s.tail else s
  if body.isEmpty || !body.all isDigit then none else some (value body)

end TaskTiming.Decimal
