import TaskTiming.Cpu.Set
import TaskTiming.Cpu.Frequency

/-!
# What a host tells about its CPUs

The CPUs that a thread may run on stand in its status as ranges; the frequency of a CPU stands in a file
of its own, or else in the list of processors.
-/

namespace TaskTiming
set_option autoImplicit false

/-- The parts of a text between marks. -/
def Text.splitAll (mark : Char) : Nat → List Char → List (List Char)
  | 0, s => [s]
  | fuel + 1, s =>
    match Text.splitOnce mark s with
    | none => [s]
    | some (before, after) => before :: Text.splitAll mark fuel after

namespace CpuSet

/-- The indices in a range such as `4-7`, or in a single index. -/
def rangeIndices (s : List Char) : List Nat :=
  match Text.splitOnce '-' s with
  | some (first, last) =>
    match Decimal.unsigned? first, Decimal.unsigned? last with
    | some a, some b => (List.range (Nat.min (b + 1) cpuCapacity)).filter fun i => a ≤ i
    | _, _ => []
  | none => (Decimal.unsigned? s).toList

/-- The CPUs of a row of ranges with commas. -/
def ofRanges (s : List Char) : CpuSet :=
  ofList ((Text.splitAll ',' s.length (Text.trim s)).flatMap rangeIndices)

/-- The CPUs that the status of a thread allows. -/
def ofStatus (status : List Char) : CpuSet :=
  let line := (Text.lines status).filterMap fun line =>
    match Text.splitOnce ':' line with
    | some (key, value) => if key = "Cpus_allowed_list".toList then some value else none
    | none => none
  match line with
  | [] => empty
  | value :: _ => ofRanges value

end CpuSet

/-- The file with the frequency of a CPU. -/
def Frequency.path (cpu : Nat) : String :=
  "/sys/devices/system/cpu/cpu" ++ Decimal.text cpu ++ "/cpufreq/scaling_cur_freq"

/-- The file with the governor of a CPU's frequency. -/
def Frequency.governorPath (cpu : Nat) : String :=
  "/sys/devices/system/cpu/cpu" ++ Decimal.text cpu ++ "/cpufreq/scaling_governor"

/-- The frequency of a CPU, from the content of its file if there is one, or from the list of
processors. -/
def Frequency.ofFiles (own processors : Option String) (cpu : UInt64) : Option UInt64 :=
  match own with
  | some s => ofKilohertz s.toList
  | none => processors.bind fun s => ofProcessorList s.toList cpu

end TaskTiming
