import TaskTiming.Store.Codec
import TaskTiming.Json.File

/-!
# Calibration stores in files
-/

namespace TaskTiming.Store
set_option autoImplicit false

variable {m : Type → Type} [Monad m] [Storage m]

/-- Reads a store from a file. -/
def load (p : Path) : m (Result Store) := schema.read.file p

/-- Reads a store from a file, or starts with an empty one if nothing is there. -/
def loadOrEmpty (p : Path) : m (Result Store) := do
  if ← Storage.holds p then load p else return .ok empty

/-- Writes a store to a file. -/
def save (s : Store) (p : Path) : m (Result Unit) := s.toJson.save p

end TaskTiming.Store
