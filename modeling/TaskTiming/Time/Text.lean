import TaskTiming.Time
import TaskTiming.Decimal.Digits
import TaskTiming.Text.Blank
import TaskTiming.Text.Line

/-!
# Times as text

A time is written as its seconds, a point and nine digits. Blanks around it, fewer digits after the
point, and no point at all are read as well.
-/

namespace TaskTiming.Time
set_option autoImplicit false

-- The bounds are powers of the core library, also where others are in sight.
attribute [local instance (2000)] instPowNat

/-- The digits, the point and nine digits more. -/
def chars (t : Time) : List Char :=
  Decimal.digits t.sec.toNat ++ '.' :: Decimal.padded 9 t.nsec.toNat

def text (t : Time) : String := String.ofList t.chars

/-- The parts in which the text is handed to a writer: what fills up the nine digits goes zero by zero. -/
def parts (t : Time) : List (List Char) :=
  let digits := Decimal.digits t.nsec.toNat
  [Decimal.digits t.sec.toNat, ['.']] ++ List.replicate (9 - digits.length) ['0'] ++ [digits]

/-- The parts are those of the text. -/
theorem flatten_parts (t : Time) : t.parts.flatten = t.chars := by
  have zeros : ∀ n, (List.replicate n ['0']).flatten = List.replicate n '0' := by
    intro n
    induction n with
    | zero => rfl
    | succ n ih => rw [List.replicate_succ, List.flatten_cons, ih]; rfl
  simp only [parts, chars, Decimal.padded, List.leftpad, List.flatten_append, zeros]
  simp

/-- The nanoseconds that digits after the point stand for: missing ones count as zeros. -/
def fractionNanos (fraction : List Char) : Nat :=
  Decimal.value fraction * 10 ^ (9 - fraction.length)

theorem fractionNanos_lt {fraction : List Char} (len : fraction.length ≤ 9)
    (digits : fraction.all Decimal.isDigit = true) : fractionNanos fraction < 1000000000 := by
  have h := Decimal.value_lt digits
  have p : 10 ^ fraction.length * 10 ^ (9 - fraction.length) = 1000000000 := by
    rw [← Nat.pow_add, Nat.add_sub_cancel' len]
  calc fractionNanos fraction < 10 ^ fraction.length * 10 ^ (9 - fraction.length) :=
        Nat.mul_lt_mul_of_pos_right h (Nat.pow_pos (by decide))
    _ = 1000000000 := p

/-- Reads the two parts around the point. -/
def ofParts? (whole fraction : List Char) : Except TimeError Time :=
  if whole.isEmpty || !whole.all Decimal.isDigit then .error (.malformed .secondsNotDecimal)
  else if h : fraction.length ≤ 9 ∧ fraction.all Decimal.isDigit = true then
    match Word.ofNat? (Decimal.value whole) with
    | none => .error .overflow
    | some sec =>
      have lt := fractionNanos_lt h.1 h.2
      .ok { sec, nsec := UInt32.ofNatLT (fractionNanos fraction) (lt_size32 lt), nsec_lt := lt }
  else .error (.malformed .fractionNotDecimal)

/-- Reads seconds with up to nine digits after the point, and blanks around them. -/
def ofChars? (s : List Char) : Except TimeError Time :=
  let body := Text.trim s
  match Text.splitOnce '.' body with
  | some (whole, fraction) => ofParts? whole fraction
  | none => ofParts? body []

def ofText? (s : String) : Except TimeError Time := ofChars? s.toList

end TaskTiming.Time
