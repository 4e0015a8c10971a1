import TaskTiming.Os.IoError

/-!
# Event counters

A counter that is signalled by anyone and consumed by one: as a plain counter all at once, as a
semaphore one by one. It never blocks; a signal that does not fit is refused.
-/

namespace TaskTiming
set_option autoImplicit false

structure EventCounter where
  semaphore : Bool
  pending : Nat
deriving DecidableEq, Repr

namespace EventCounter

def plain : EventCounter := { semaphore := false, pending := 0 }

def single : EventCounter := { semaphore := true, pending := 0 }

/-- The most signals that can be pending. -/
def limit : Nat := UInt64.size - 2

/-- One more signal; the system asks to try again when the counter is full. -/
def signal (c : EventCounter) : Except IoError Unit × EventCounter :=
  if c.pending < limit then (.ok (), { c with pending := c.pending + 1 }) else (.error (.os 11), c)

/-- The number of signals taken, zero if none is pending. -/
def consume (c : EventCounter) : Nat × EventCounter :=
  if c.semaphore then (Nat.min c.pending 1, { c with pending := c.pending - 1 })
  else (c.pending, { c with pending := 0 })

/-- A wait for the counter returns. -/
def isReadable (c : EventCounter) : Bool := 0 < c.pending

end EventCounter

/-- A cancellation that, once raised, stays. It is kept as a flag, and as a counter to wait for. -/
structure CancelToken where
  cancelled : Bool
  signals : EventCounter
deriving DecidableEq, Repr

namespace CancelToken

def new : CancelToken := { cancelled := false, signals := .plain }

/-- The first step of cancelling. -/
def raise (t : CancelToken) : CancelToken := { t with cancelled := true }

/-- The second step: waits return. -/
def signal (t : CancelToken) : Except IoError Unit × CancelToken :=
  let (outcome, signals) := t.signals.signal
  (outcome, { t with signals })

end CancelToken

end TaskTiming
