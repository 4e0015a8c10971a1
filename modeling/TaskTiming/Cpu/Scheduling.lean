import TaskTiming.Cpu.Set

/-!
# Scheduling classes and placement

What a thread asks of its host: to be bound to one CPU, and to run in a first-in-first-out class at a
static priority. A host that grants the caller no such right refuses both.
-/

namespace TaskTiming
set_option autoImplicit false

/-- What a host grants to a thread. -/
structure Host where
  /-- The CPUs that threads may run on. -/
  allowed : CpuSet
  /-- Threads may enter a real-time class. -/
  privileged : Bool
  /-- The clock frequency of a CPU in hertz, where it is known. -/
  frequency : UInt64 → Option UInt64
  /-- The governor of a CPU's frequency, where it is known. -/
  governor : UInt64 → Option String

/-- A scheduling class by its number, and a static priority in it. -/
structure SchedPolicy where
  number : Int
  priority : Int
deriving DecidableEq, Repr

namespace SchedPolicy

/-- The number of the first-in-first-out class. -/
def fifoNumber : Int := 1

/-- The number of the round-robin class. -/
def roundRobinNumber : Int := 2

/-- The lowest and the highest priority in the first-in-first-out class. -/
def fifoRange : Int × Int := (1, 99)

def fifo (priority : Int) : Result SchedPolicy :=
  if fifoRange.1 ≤ priority ∧ priority ≤ fifoRange.2 then .ok { number := fifoNumber, priority }
  else .error (.argument (.fifoPriority priority))

def fifoMax : SchedPolicy := { number := fifoNumber, priority := fifoRange.2 }

def isRealtime (p : SchedPolicy) : Bool := p.number = fifoNumber || p.number = roundRobinNumber

end SchedPolicy

namespace Host

/-- Puts the thread into a class; a real-time class needs the right to it. -/
def apply (host : Host) (p : SchedPolicy) : Result Unit :=
  if p.isRealtime && !host.privileged then .error (.ofScheduling .notPermitted) else .ok ()

/-- Binds the thread to one CPU, which must be among the allowed ones. -/
def pin (host : Host) (cpu : UInt64) : Result CpuSet := do
  let set ← CpuSet.single cpu
  if host.allowed.contains cpu then .ok set
  else .error (.argument (.cpuNotAllowed cpu.toNat host.allowed.cpus))

/-- Binds the thread and raises it to the highest priority. -/
def enterRealtime (host : Host) (cpu : UInt64) : Result Unit := do
  let _ ← host.pin cpu
  host.apply .fifoMax

/-- Runs a computation on a thread of its own that is bound to one CPU at the highest priority. -/
def runPinned {α : Type} (host : Host) (cpu : UInt64) (run : Unit → α) : Result α := do
  host.enterRealtime cpu
  return run ()

end Host

/-- How a task's thread is admitted to its scheduling class. -/
inductive Admission
  /-- It stays in the class it has. -/
  | bestEffort
  /-- It enters the first-in-first-out class, on one CPU if one is given. -/
  | fifo (priority : Int) (cpu : Option UInt64)
  /-- Its request is refused by the system. -/
  | refused (errno : Nat)
deriving DecidableEq

def Admission.enter (host : Host) : Admission → Result Unit
  | .bestEffort => .ok ()
  | .fifo priority cpu => do
    if let some cpu := cpu then
      let _ ← host.pin cpu
    host.apply (← SchedPolicy.fifo priority)
  | .refused errno => .error (.ofScheduling (.os errno))

end TaskTiming
