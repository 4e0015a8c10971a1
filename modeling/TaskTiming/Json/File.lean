import TaskTiming.Json.Decoder
import TaskTiming.Storage
import TaskTiming.Error

/-!
# JSON files

A value is read from a file that holds it and nothing else. It is written through a buffer, which hands
the file what it holds when a piece does not fit, and the rest at the end; whether that last write works
is not looked at.
-/

namespace TaskTiming.Json
set_option autoImplicit false

variable {α : Type}

/-- The value in the content of a file. -/
def Decoder.content (d : Decoder α) : Except IoError (List UInt8) → Except Fault α
  | .error cause => .error (.unreadable cause)
  | .ok bytes =>
    match String.fromUTF8? ⟨bytes.toArray⟩ with
    | some s => d.text s
    | none => .error .malformed

/-- Reads a value from a file. -/
def Decoder.file {m : Type → Type} [Monad m] [Storage m] (d : Decoder α) (p : Path) : m (Result α) := do
  match ← Storage.read p with
  | .error cause => return .error (.io cause)
  | .ok content => return (d.content content).mapError .json

/-- The most bytes that the buffer holds. -/
def bufferSize : Nat := 8192

/-- What a buffer that holds some bytes hands over while pieces are written, and what it then holds. -/
def chunks (held : List UInt8) : List (List UInt8) → List (List UInt8) × List UInt8
  | [] => ([], held)
  | piece :: rest =>
    let fits : Bool := held.length + piece.length ≤ bufferSize
    let flushed := if fits then [] else [held]
    let held := if fits then held else []
    if bufferSize ≤ piece.length then
      let (out, held) := chunks held rest
      (flushed ++ piece :: out, held)
    else
      let (out, held) := chunks (held ++ piece) rest
      (flushed ++ out, held)

/-- Writes chunks one behind the other, up to the first that fails. -/
def writeChunks {m : Type → Type} [Monad m] [Storage m] (p : Path) (offset : Nat) :
    List (List UInt8) → m (Except IoError Unit)
  | [] => return .ok ()
  | chunk :: rest => do
    match ← Storage.write p offset chunk with
    | .error cause => return .error cause
    | .ok () => writeChunks p (offset + chunk.length) rest

/-- The pieces of a value's text as bytes. -/
def bytePieces (j : Json) : List (List UInt8) :=
  (j.prettyPieces 0).map fun piece => (String.ofList piece).toUTF8.toList

/-- Writes a value to a file. -/
def save {m : Type → Type} [Monad m] [Storage m] (j : Json) (p : Path) : m (Result Unit) := do
  match ← Storage.create p with
  | .error cause => return .error (.io cause)
  | .ok () =>
    let (out, held) := chunks [] j.bytePieces
    match ← writeChunks p 0 out with
    | .error cause => return .error (.json (.unreadable cause))
    | .ok () =>
      let _ ← Storage.write p out.flatten.length held
      return .ok ()

end TaskTiming.Json
