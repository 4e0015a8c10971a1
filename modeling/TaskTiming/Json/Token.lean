import TaskTiming.Decimal.Digits
import TaskTiming.Json.Quoted

/-!
# JSON tokens

A JSON text as a row of tokens. Cutting a text into tokens always succeeds: what is no token becomes
`unreadable`, which every reader refuses in its place, so that the first fault of a text is also the
first one reported.
-/

namespace TaskTiming.Json
set_option autoImplicit false

/-- A number as it is written: its sign, its whole part, the digits after its point and its power of
ten. -/
structure Number where
  negative : Bool
  whole : Nat
  fraction : List Char
  exponent : Option Int
deriving DecidableEq, Repr

namespace Number

def ofNat (n : Nat) : Number := { negative := false, whole := n, fraction := [], exponent := none }

def ofInt : Int → Number
  | .ofNat n => ofNat n
  | .negSucc n => { ofNat (n + 1) with negative := true }

/-- Neither a point nor a power of ten is written. -/
def isInteger (n : Number) : Bool := n.fraction.isEmpty && n.exponent.isNone

/-- The number, if it is written as a natural number. -/
def toNat? (n : Number) : Option Nat := if n.isInteger && !n.negative then some n.whole else none

/-- The number, if it is written as an integer. A zero with a sign is no integer. -/
def toInt? (n : Number) : Option Int :=
  if !n.isInteger then none
  else if !n.negative then some (Int.ofNat n.whole)
  else if n.whole = 0 then none
  else some (-Int.ofNat n.whole)

def chars (n : Number) : List Char :=
  (if n.negative then ['-'] else []) ++ Decimal.digits n.whole
    ++ (if n.fraction.isEmpty then [] else '.' :: n.fraction)
    ++ match n.exponent with
      | none => []
      | some e => 'e' :: (Decimal.intText e).toList

/-- Reads a power of ten: an optional sign and digits. -/
def exponent? (s : List Char) : Option Int :=
  let (negative, row) := match s with
    | '-' :: rest => (true, rest)
    | '+' :: rest => (false, rest)
    | rest => (false, rest)
  if row.isEmpty || !row.all Decimal.isDigit then none
  else some (if negative then -Int.ofNat (Decimal.value row) else Int.ofNat (Decimal.value row))

/-- Reads what may follow the whole part of a number. -/
def tail? (negative : Bool) (whole : Nat) (s : List Char) : Option Number :=
  let after (fraction : List Char) : List Char → Option Number
    | [] => some { negative, whole, fraction, exponent := none }
    | c :: rest =>
      if c = 'e' ∨ c = 'E' then
        (exponent? rest).map fun e => { negative, whole, fraction, exponent := some e }
      else none
  match s with
  | '.' :: rest =>
    let fraction := rest.takeWhile Decimal.isDigit
    if fraction.isEmpty then none else after fraction (rest.dropWhile Decimal.isDigit)
  | s => after [] s

/-- Reads a number: no leading zeros, and digits wherever there is a point or a power. -/
def ofChars? (s : List Char) : Option Number :=
  let (negative, body) := match s with
    | '-' :: rest => (true, rest)
    | rest => (false, rest)
  let row := body.takeWhile Decimal.isDigit
  if row.isEmpty || (row.head? = some '0' && row.length ≠ 1) then none
  else tail? negative (Decimal.value row) (body.dropWhile Decimal.isDigit)

/-- The largest row of leading digits that is a 64-bit word, and the digits left over. -/
def wordDigits : Nat → List Char → Nat × List Char
  | n, [] => (n, [])
  | n, c :: rest =>
    let m := 10 * n + Decimal.digitValue c
    if m < UInt64.size then wordDigits m rest else (n, c :: rest)

/-- The number is within the range of a double. Only the digits that fit a word count; the others
before the point raise the power of ten. -/
def inRange (n : Number) : Bool :=
  let (word, extra) := wordDigits 0 (Decimal.digits n.whole)
  let (word, lost) := wordDigits word n.fraction
  let power : Int :=
    n.exponent.getD 0 + Int.ofNat extra.length - Int.ofNat (n.fraction.length - lost.length)
  if word = 0 ∨ power ≤ 0 then true
  else if power > 308 then false
  else (UInt64.ofNat word).toFloat * Float.ofScientific 1 false power.toNat < 1.0 / 0.0

end Number

/-- The pieces of a JSON text. A string keeps the row between its quotes. -/
inductive Token
  | openObject
  | closeObject
  | openArray
  | closeArray
  | comma
  | colon
  | null
  | bool (b : Bool)
  | number (n : Number)
  | string (row : List Char)
  | unreadable
deriving DecidableEq, Repr

namespace Token

/-- The character is a JSON blank. -/
def isSpace (c : Char) : Bool := c = ' ' || c = '\n' || c = '\t' || c = '\r'

/-- The character can stand in a number or in one of the three words. -/
def isBare (c : Char) : Bool := c.isAlphanum || c = '+' || c = '-' || c = '.'

/-- The token of an unquoted row. -/
def ofBare (row : List Char) : Token :=
  if row = "null".toList then .null
  else if row = "true".toList then .bool true
  else if row = "false".toList then .bool false
  else match Number.ofChars? row with
    | some n => .number n
    | none => .unreadable

/-- The token of a quoted row. -/
def ofQuoted (row : List Char) : Token := if wellFormed row then .string row else .unreadable

/-- Where the reader of characters stands; rows are kept last character first. -/
inductive Mode
  | between
  | bare (row : List Char)
  | quoted (row : List Char)
  | escaped (row : List Char)

/-- Begins a token with its first character: what is complete at once, and where reading goes on. -/
def start (c : Char) : List Token × Mode :=
  if isSpace c then ([], .between)
  else match c with
    | '{' => ([.openObject], .between)
    | '}' => ([.closeObject], .between)
    | '[' => ([.openArray], .between)
    | ']' => ([.closeArray], .between)
    | ',' => ([.comma], .between)
    | ':' => ([.colon], .between)
    | '"' => ([], .quoted [])
    | c => if isBare c then ([], .bare [c]) else ([.unreadable], .between)

/-- The tokens of the rest of a text. -/
def scanFrom : Mode → List Char → List Token
  | .between, [] => []
  | .bare row, [] => [ofBare row.reverse]
  | .quoted _, [] => [.unreadable]
  | .escaped _, [] => [.unreadable]
  | .between, c :: rest =>
    let (done, mode) := start c
    done ++ scanFrom mode rest
  | .bare row, c :: rest =>
    if isBare c then scanFrom (.bare (c :: row)) rest
    else
      let (done, mode) := start c
      ofBare row.reverse :: (done ++ scanFrom mode rest)
  | .quoted row, c :: rest =>
    if c = '"' then ofQuoted row.reverse :: scanFrom .between rest
    else if c = '\\' then scanFrom (.escaped (c :: row)) rest
    else if c.toNat < 32 then [.unreadable]
    else scanFrom (.quoted (c :: row)) rest
  | .escaped row, c :: rest =>
    if c.toNat < 32 then [.unreadable] else scanFrom (.quoted (c :: row)) rest

/-- The tokens of a text. -/
def scan (s : List Char) : List Token := scanFrom .between s

end Token

end TaskTiming.Json
