import TaskTiming.Word
import TaskTiming.Text.Blank
import TaskTiming.Text.Line
import TaskTiming.Decimal.Reader

/-!
# Clock frequencies

The frequency of a CPU is read from a file that holds it in kilohertz or from the host's list of
processors, where it stands in megahertz among the properties of its processor.
-/

namespace TaskTiming.Frequency
set_option autoImplicit false

/-- An unsigned word, with an optional `+` in front. -/
def word? (s : List Char) : Option UInt64 := (Decimal.unsigned? s).bind Word.ofNat?

/-- A frequency in hertz from a text in kilohertz. -/
def ofKilohertz (s : List Char) : Option UInt64 :=
  (word? (Text.trim s)).bind fun k => Word.mul? k 1000

/-- Megahertz as hertz, to the nearest one; what is no number counts as none. -/
def hertz (megahertz : Float) : UInt64 := (megahertz * 1e6).round.toUInt64

/-- A frequency in hertz from a text in megahertz. -/
def ofMegahertz (s : List Char) : Option UInt64 := (Decimal.float? (Text.trim s)).map hertz

/-- A property in a list of processors: its key and its value, without the blanks around the key. -/
def property? (line : List Char) : Option (List Char × List Char) :=
  (Text.splitOnce ':' line).map fun (key, value) => (Text.trim key, value)

/-- The frequency of a processor in the rest of a list, where `current` is the processor that the
properties belong to. -/
def findFrom (cpu : UInt64) (current : Option UInt64) : List (List Char) → Option UInt64
  | [] => none
  | line :: rest =>
    match property? line with
    | none => findFrom cpu current rest
    | some (key, value) =>
      if key = "processor".toList then findFrom cpu (word? (Text.trim value)) rest
      else if key = "cpu MHz".toList ∧ current = some cpu then ofMegahertz value
      else findFrom cpu current rest

/-- The frequency of a processor in a list of processors. -/
def ofProcessorList (s : List Char) (cpu : UInt64) : Option UInt64 := findFrom cpu none (Text.lines s)

/-- The distance between two words. -/
def distance (a b : UInt64) : Nat := Nat.max a.toNat b.toNat - Nat.min a.toNat b.toNat

/-- The frequency now is within so many millionths of the calibrated one. -/
def within (calibrated now ppm : UInt64) : Bool :=
  decide (1000000 * distance calibrated now ≤ calibrated.toNat * ppm.toNat)

end TaskTiming.Frequency
