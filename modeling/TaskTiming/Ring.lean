import TaskTiming.Sample
import TaskTiming.Error

/-!
# The statistics ring

A store for a bounded number of samples. When it is full it either starts over and replaces its oldest
samples, or refuses all further ones. The cursor rests behind the last slot when the ring is full and
goes back to the first slot only with the next sample.
-/

namespace TaskTiming
set_option autoImplicit false

/-- What a full ring does with one more sample. -/
inductive OverrunPolicy
  /-- It replaces its oldest sample. -/
  | overwrite
  /-- It refuses the new one. -/
  | reject
deriving DecidableEq, Repr

def OverrunPolicy.label : OverrunPolicy → String
  | .overwrite => "Overwrite"
  | .reject => "Reject"

/-- A ring of at least one slot. -/
structure Ring where
  capacity : Nat
  policy : OverrunPolicy
  /-- The slots written so far. -/
  slots : Array Sample
  /-- The slot for the next sample, or the capacity when the ring is full. -/
  cursor : Nat
  /-- All samples that were offered. -/
  total : Nat
  /-- How often the cursor went back to the first slot. -/
  wraps : Nat
  rejected : Nat
  /-- A sample was lost. -/
  overrun : Bool
  capacity_pos : 0 < capacity

namespace Ring

/-- An empty ring, if it has a slot at all. -/
def new (capacity : Nat) (policy : OverrunPolicy) : Result Ring :=
  if h : 0 < capacity then
    .ok {
      capacity, policy, slots := #[], cursor := 0, total := 0, wraps := 0, rejected := 0
      overrun := false, capacity_pos := h }
  else .error (.argument .ringCapacityZero)

/-- Writes a slot, the first one not yet written included. -/
def write (slots : Array Sample) (slot : Nat) (s : Sample) : Array Sample :=
  if h : slot < slots.size then slots.set slot s else slots.push s

/-- Puts a sample into the slot at the cursor. -/
def store (r : Ring) (slot : Nat) (s : Sample) : Ring :=
  { r with slots := write r.slots slot s, cursor := slot + 1, total := r.total + 1 }

/-- Offers a sample; the answer is the slot it is kept in. -/
def record (r : Ring) (s : Sample) : Ring × Option Nat :=
  if r.cursor = r.capacity then
    match r.policy with
    | .overwrite => ({ r with overrun := true, wraps := r.wraps + 1 }.store 0 s, some 0)
    | .reject => ({ r with overrun := true, total := r.total + 1, rejected := r.rejected + 1 }, none)
  else (r.store r.cursor s, some r.cursor)

theorem capacity_record (r : Ring) (s : Sample) : (r.record s).1.capacity = r.capacity := by
  unfold record
  split
  · cases r.policy <;> rfl
  · rfl

/-- Offers samples one after the other. -/
def recordAll (r : Ring) (samples : List Sample) : Ring :=
  samples.foldl (fun r s => (r.record s).1) r

/-- The number of samples in the ring. -/
def length (r : Ring) : Nat := if r.wraps > 0 then r.capacity else r.cursor

/-- The number of samples lost. -/
def lost (r : Ring) : Nat := if r.overrun then r.total - r.capacity else 0

/-- The position of the oldest sample in the ring among all that were offered, counted from one. -/
def oldestPosition (r : Ring) : Nat :=
  match r.policy with
  | .overwrite => if r.overrun then r.total - r.capacity + 1 else 1
  | .reject => 1

/-- The slot of the oldest sample. -/
def oldestSlot (r : Ring) : Nat := if r.wraps > 0 then r.cursor % r.capacity else 0

/-- The samples in the ring, oldest first. -/
def samples (r : Ring) : List Sample :=
  (List.range r.length).map fun i => r.slots[(r.oldestSlot + i) % r.capacity]?.getD default

/-- Offers the samples of a ring to another one, oldest first. -/
def flushInto (r target : Ring) : Ring := target.recordAll r.samples

end Ring

end TaskTiming
