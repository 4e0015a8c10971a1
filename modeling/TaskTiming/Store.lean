import TaskTiming.Calibration
import TaskTiming.Overheads
import TaskTiming.ReleaseKind

/-!
# Calibration stores

What is known of the CPUs of a host: for each a calibration, and the overheads of both kinds of task. The
CPUs stand in order, each once.
-/

namespace TaskTiming
set_option autoImplicit false

/-- What is known of one CPU. -/
structure CpuRecord where
  busyloop : Option Calibration
  periodicOverheads : Option Overheads
  aperiodicOverheads : Option Overheads
deriving DecidableEq

namespace CpuRecord

/-- Nothing is known. -/
def blank : CpuRecord := { busyloop := none, periodicOverheads := none, aperiodicOverheads := none }

def overheads (r : CpuRecord) : ReleaseKind → Option Overheads
  | .periodic => r.periodicOverheads
  | .aperiodic => r.aperiodicOverheads

def setOverheads (r : CpuRecord) (release : ReleaseKind) (o : Overheads) : CpuRecord :=
  match release with
  | .periodic => { r with periodicOverheads := some o }
  | .aperiodic => { r with aperiodicOverheads := some o }

end CpuRecord

structure Store where
  /-- The CPUs in order, with what is known of them. -/
  cpus : List (UInt64 × CpuRecord)
deriving DecidableEq

namespace Store

def empty : Store := { cpus := [] }

/-- Puts a record in its place among others, for the one that was there. -/
def insert (cpu : UInt64) (r : CpuRecord) : List (UInt64 × CpuRecord) → List (UInt64 × CpuRecord)
  | [] => [(cpu, r)]
  | (other, s) :: rest =>
    if cpu < other then (cpu, r) :: (other, s) :: rest
    else if cpu = other then (cpu, r) :: rest
    else (other, s) :: insert cpu r rest

def put (s : Store) (cpu : UInt64) (r : CpuRecord) : Store := { cpus := insert cpu r s.cpus }

/-- What is known of a CPU, if there is a record of it. -/
def cpu? (s : Store) (cpu : UInt64) : Option CpuRecord := (s.cpus.find? (·.1 = cpu)).map (·.2)

theorem find?_insert_self (cpu : UInt64) (r : CpuRecord) (cpus : List (UInt64 × CpuRecord)) :
    (insert cpu r cpus).find? (·.1 = cpu) = some (cpu, r) := by
  induction cpus with
  | nil => simp [insert]
  | cons entry rest ih =>
    obtain ⟨other, s⟩ := entry
    simp only [insert]
    split
    · simp
    · split
      · simp
      · rename_i h
        rw [List.find?_cons_of_neg (by simpa using fun e => h e.symm)]
        exact ih

theorem find?_insert_of_ne {cpu asked : UInt64} (h : asked ≠ cpu) (r : CpuRecord)
    (cpus : List (UInt64 × CpuRecord)) :
    (insert cpu r cpus).find? (·.1 = asked) = cpus.find? (·.1 = asked) := by
  have miss : ¬cpu = asked := fun e => h e.symm
  induction cpus with
  | nil => simp [insert, miss]
  | cons entry rest ih =>
    obtain ⟨other, s⟩ := entry
    simp only [insert]
    split
    · rw [List.find?_cons_of_neg (by simpa using miss)]
    · split
      · rename_i e
        subst e
        rw [List.find?_cons_of_neg (by simpa using miss), List.find?_cons_of_neg (by simpa using miss)]
      · simp only [List.find?_cons, ih]

/-- What was put is found. -/
theorem cpu?_put_self (s : Store) (cpu : UInt64) (r : CpuRecord) : (s.put cpu r).cpu? cpu = some r := by
  simp only [cpu?, put, find?_insert_self, Option.map_some]

/-- All other CPUs stay as they were. -/
theorem cpu?_put_of_ne {cpu asked : UInt64} (h : asked ≠ cpu) (s : Store) (r : CpuRecord) :
    (s.put cpu r).cpu? asked = s.cpu? asked := by
  simp only [cpu?, put, find?_insert_of_ne h]

/-- Changes the record of a CPU, a blank one if there was none. -/
def update (s : Store) (cpu : UInt64) (f : CpuRecord → CpuRecord) : Store :=
  s.put cpu (f ((s.cpu? cpu).getD .blank))

def setBusyloop (s : Store) (cpu : UInt64) (c : Calibration) : Store :=
  s.update cpu fun r => { r with busyloop := some c }

def setOverheads (s : Store) (cpu : UInt64) (release : ReleaseKind) (o : Overheads) : Store :=
  s.update cpu fun r => r.setOverheads release o

def overheads (s : Store) (cpu : UInt64) (release : ReleaseKind) : Option Overheads :=
  (s.cpu? cpu).bind fun r => r.overheads release

end Store

end TaskTiming
