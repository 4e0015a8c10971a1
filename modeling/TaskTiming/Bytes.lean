/-!
# Little-endian bytes

Numbers as rows of bytes, least significant first, and the signed reading of a row. Main statements:
a row stands for the number it was made from (`value_ofNat`), and a row is made from the number it
stands for (`ofNat_value`).
-/

namespace TaskTiming.Bytes
set_option autoImplicit false

-- The bounds are powers of the core library, also where others are in sight.
attribute [local instance (2000)] instPowNat

/-- The lowest `width` bytes of a number. -/
def ofNat : Nat → Nat → List UInt8
  | 0, _ => []
  | width + 1, n => UInt8.ofNat (n % 256) :: ofNat width (n / 256)

/-- The number that a row of bytes stands for. -/
def value : List UInt8 → Nat
  | [] => 0
  | b :: rest => b.toNat + 256 * value rest

@[simp] theorem length_ofNat (width n : Nat) : (ofNat width n).length = width := by
  induction width generalizing n with
  | zero => rfl
  | succ w ih => simp [ofNat, ih]

theorem value_lt (bytes : List UInt8) : value bytes < 256 ^ bytes.length := by
  induction bytes with
  | nil => simp [value]
  | cons b rest ih =>
    have := b.toNat_lt
    simp only [value, List.length_cons, Nat.pow_succ]
    omega

theorem value_take_lt (bytes : List UInt8) (width : Nat) : value (bytes.take width) < 256 ^ width := by
  apply Nat.lt_of_lt_of_le (value_lt _)
  apply Nat.pow_le_pow_right
  · decide
  · exact List.length_take_le ..

theorem value_ofNat {width n : Nat} (h : n < 256 ^ width) : value (ofNat width n) = n := by
  induction width generalizing n with
  | zero => simp at h; simp [ofNat, value, h]
  | succ w ih =>
    rw [Nat.pow_succ] at h
    simp only [ofNat, value]
    rw [ih (by omega)]
    simp
    omega

theorem ofNat_value (bytes : List UInt8) : ofNat bytes.length (value bytes) = bytes := by
  induction bytes with
  | nil => rfl
  | cons b rest ih =>
    have hb := b.toNat_lt
    have hm : (b.toNat + 256 * value rest) % 256 = b.toNat := by omega
    have hd : (b.toNat + 256 * value rest) / 256 = value rest := by omega
    simp only [value, List.length_cons, ofNat, hm, hd, ih]
    simp

/-- The signed 64-bit number in eight bytes, negative ones in two's complement. -/
def ofInt64 (n : Int64) : List UInt8 := ofNat 8 n.toUInt64.toNat

/-- The signed 64-bit number that eight bytes stand for. -/
def int64 (bytes : List UInt8) : Int64 := (UInt64.ofNat (value bytes)).toInt64

end TaskTiming.Bytes
