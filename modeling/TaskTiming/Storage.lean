import TaskTiming.Disk

/-!
# Storage

What a program does with files, wherever they are: on a `Disk` that is a value, or on the host's own.
-/

namespace TaskTiming
set_option autoImplicit false

class Storage (m : Type → Type) where
  /-- Opens a file, and reads it if that works. -/
  read : Path → m (Except IoError (Except IoError (List UInt8)))
  /-- Something is there. -/
  holds : Path → m Bool
  /-- Makes an empty file, or empties the one that is there. -/
  create : Path → m (Except IoError Unit)
  /-- Writes into a file from an offset on. -/
  write : Path → Nat → List UInt8 → m (Except IoError Unit)

instance : Storage (StateM Disk) where
  read p := fun d => (d.read p, d)
  holds p := fun d => (d.holds p, d)
  create p := fun d => d.create p
  write p offset bytes := fun d => d.write p offset bytes

end TaskTiming
