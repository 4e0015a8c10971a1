import TaskTiming.Error

/-!
# CPU sets

A set of CPUs is a mask of 1024 bits, one for each index.
-/

namespace TaskTiming
set_option autoImplicit false

structure CpuSet where
  mask : BitVec cpuCapacity
deriving DecidableEq

namespace CpuSet

def empty : CpuSet := ⟨0⟩

/-- The set of one CPU, if its index has a bit. -/
def single (cpu : UInt64) : Result CpuSet :=
  if cpu.toNat < cpuCapacity then .ok ⟨BitVec.twoPow cpuCapacity cpu.toNat⟩
  else .error (.argument (.cpuIndex cpu.toNat))

def contains (s : CpuSet) (cpu : UInt64) : Bool := s.mask.getLsbD cpu.toNat

/-- The indices in the set, in order. -/
def cpus (s : CpuSet) : List Nat := (List.range cpuCapacity).filter s.mask.getLsbD

def count (s : CpuSet) : Nat := s.cpus.length

/-- The indices between braces. -/
def text (s : CpuSet) : String := setText s.cpus

/-- The set of the given indices; those without a bit are left out. -/
def ofList (cpus : List Nat) : CpuSet :=
  ⟨cpus.foldl (fun mask cpu => mask ||| BitVec.twoPow cpuCapacity cpu) 0⟩

end CpuSet

end TaskTiming
