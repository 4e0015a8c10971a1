import TaskTiming.Decimal.Digits

/-!
# Reading doubles

A double is written as digits with an optional point, an optional power of ten and an optional sign,
or as one of the words for infinity and for no number, in any case of letters.
-/

namespace TaskTiming.Decimal
set_option autoImplicit false

/-- A power of ten: an optional sign and at least one digit. -/
def power? (s : List Char) : Option Int :=
  let (negative, row) := match s with
    | '-' :: rest => (true, rest)
    | '+' :: rest => (false, rest)
    | rest => (false, rest)
  if row.isEmpty || !row.all isDigit then none
  else some (if negative then -Int.ofNat (value row) else Int.ofNat (value row))

/-- The double nearest to `mantissa * 10 ^ power`. Powers far outside the range are not computed. -/
def scaled (mantissa : Nat) (power : Int) : Float :=
  let magnitude := power + Int.ofNat (digits mantissa).length
  if mantissa = 0 ∨ magnitude < -400 then 0.0
  else if 400 < magnitude then 1.0 / 0.0
  else if power < 0 then Float.ofScientific mantissa true power.natAbs
  else Float.ofScientific mantissa false power.natAbs

/-- A number without a sign. -/
def magnitude? (s : List Char) : Option Float :=
  let whole := s.takeWhile isDigit
  let (fraction, rest) := match s.dropWhile isDigit with
    | '.' :: rest => (rest.takeWhile isDigit, rest.dropWhile isDigit)
    | rest => ([], rest)
  if whole.isEmpty && fraction.isEmpty then none
  else
    let row := whole ++ fraction
    let power := match rest with
      | [] => some 0
      | c :: rest => if c = 'e' ∨ c = 'E' then power? rest else none
    power.map fun p => scaled (value row) (p - Int.ofNat fraction.length)

/-- Small letters of the ASCII range. -/
def lower (s : List Char) : List Char := s.map Char.toLower

/-- A word for infinity or for no number. -/
def word? (s : List Char) : Option Float :=
  let word := lower s
  if word = "inf".toList ∨ word = "infinity".toList then some (1.0 / 0.0)
  else if word = "nan".toList then some (0.0 / 0.0)
  else none

/-- Reads a double. -/
def float? (s : List Char) : Option Float :=
  let (negative, body) := match s with
    | '-' :: rest => (true, rest)
    | '+' :: rest => (false, rest)
    | rest => (false, rest)
  let x := match word? body with
    | some x => some x
    | none => magnitude? body
  x.map fun x => if negative then -x else x

end TaskTiming.Decimal
