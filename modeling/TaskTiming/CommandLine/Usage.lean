import TaskTiming.Time.Text
import TaskTiming.Decimal.Digits
import TaskTiming.Word

/-!
# Usage of a command

What a command line may hold: options with and without a value, arguments without a name, and, in front of
all that belongs to it, a subcommand. A command line that does not fit has one of a few errors.
-/

namespace TaskTiming.CommandLine
set_option autoImplicit false

/-- Why a command line is not run. Asking for help or for the version counts. -/
inductive UsageError
  | help
  | version
  /-- Nothing is given where something must be. -/
  | nothingGiven
  | missingSubcommand
  | invalidSubcommand
  | missingArgument
  | unknownArgument
  /-- A value is not of its kind. -/
  | malformedValue
  /-- An option has no value, or an empty one that cannot be. -/
  | missingValue
  /-- An option is given twice. -/
  | repeatedOption
  /-- An option without a value is given one. -/
  | unwantedValue
deriving DecidableEq, Repr

/-- The exit status with which a command line that is not run ends. -/
def UsageError.exitStatus : UsageError → Nat
  | .help => 0
  | .version => 0
  | _ => 2

/-- What a value must be. -/
inductive ValueKind
  /-- Any text but the empty one. -/
  | path
  /-- A 64-bit word. -/
  | index
  /-- A 32-bit word. -/
  | count
  | time
deriving DecidableEq, Repr

/-- A 64-bit word with an optional `+`. -/
def index? (s : String) : Option UInt64 := (Decimal.unsigned? s.toList).bind Word.ofNat?

/-- A 32-bit word with an optional sign; only zero may be negative. -/
def count? (s : String) : Option UInt32 :=
  let n := match s.toList with
    | '-' :: row =>
      if row.isEmpty || !row.all Decimal.isDigit || Decimal.value row ≠ 0 then none else some 0
    | row => Decimal.unsigned? row
  n.bind fun n => if n < UInt32.size then some (UInt32.ofNat n) else none

def ValueKind.check (kind : ValueKind) (s : String) : Except UsageError Unit :=
  match kind with
  | .path => if s.isEmpty then .error .missingValue else .ok ()
  | .index => if (index? s).isSome then .ok () else .error .malformedValue
  | .count => if (count? s).isSome then .ok () else .error .malformedValue
  | .time => if (Time.ofText? s).toBool then .ok () else .error .malformedValue

/-- What an option does. -/
inductive OptionKind
  | value (kind : ValueKind)
  | flag
  | help
  | version
deriving DecidableEq, Repr

/-- An option: its long name, and its letter if it has one. -/
structure Opt where
  name : String
  letter : Option Char
  kind : OptionKind
deriving DecidableEq, Repr

/-- What may follow the name of a command. -/
structure Usage where
  options : List Opt
  /-- The name of the paths that the command takes, and whether it takes more than one. -/
  paths : Option (String × Bool)
  /-- The names of its subcommands. -/
  subcommands : List String

namespace Usage

def long? (u : Usage) (name : String) : Option Opt := u.options.find? (·.name = name)

def short? (u : Usage) (letter : Char) : Option Opt := u.options.find? (·.letter = some letter)

end Usage

end TaskTiming.CommandLine
