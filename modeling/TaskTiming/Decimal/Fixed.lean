import TaskTiming.Decimal.Digits

/-!
# Doubles with a fixed number of places

A double is a sign and a number `mantissa * 2 ^ exponent`, or no number. It is written with a given
number of digits after the point, rounded once from its exact value; of two equally near results the
even one is taken.
-/

namespace TaskTiming.Decimal
set_option autoImplicit false

-- The bounds are powers of the core library, also where others are in sight.
attribute [local instance (2000)] instPowNat

/-- What the bits of a double stand for. -/
inductive Double
  | notANumber
  | infinite (negative : Bool)
  | finite (negative : Bool) (mantissa : Nat) (exponent : Int)
deriving DecidableEq, Repr

/-- Takes the 64 bits apart: the sign, eleven bits of exponent, and 52 bits of mantissa. -/
def Double.ofBits (bits : UInt64) : Double :=
  let negative := bits >>> 63 == 1
  let power := (bits >>> 52 &&& 0x7FF).toNat
  let mantissa := (bits &&& 0xFFFFFFFFFFFFF).toNat
  if power = 2047 then (if mantissa = 0 then .infinite negative else .notANumber)
  else if power = 0 then .finite negative mantissa (-1074)
  else .finite negative (0x10000000000000 + mantissa) (Int.ofNat power - 1075)

/-- The quotient to the nearest number, an exact half to the even one. -/
def roundDiv (num den : Nat) : Nat :=
  let q := num / den
  let r := num % den
  if 2 * r < den then q else if 2 * r > den then q + 1 else q + q % 2

/-- The digits of `n / 10 ^ places` with the point in its place. -/
def pointed (places n : Nat) : List Char :=
  let row := padded (places + 1) n
  row.take (row.length - places) ++ '.' :: row.drop (row.length - places)

/-- A double with `places` digits after the point. -/
def fixed (places : Nat) : Double → String
  | .notANumber => "NaN"
  | .infinite negative => if negative then "-inf" else "inf"
  | .finite negative mantissa exponent =>
    let scaled :=
      if exponent < 0 then roundDiv (mantissa * 10 ^ places) (1 <<< exponent.natAbs)
      else (mantissa * 10 ^ places) <<< exponent.natAbs
    (if negative then "-" else "") ++ String.ofList (pointed places scaled)

end TaskTiming.Decimal
