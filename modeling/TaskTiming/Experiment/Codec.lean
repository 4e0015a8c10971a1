import TaskTiming.Experiment
import TaskTiming.Task.Codec
import TaskTiming.Json.File

/-!
# Experiments in JSON

The parameters of a task stand among the other members of its object. Those other members are decoded
where they stand, the parameters when the object is complete.
-/

namespace TaskTiming
set_option autoImplicit false
open Json (Schema Decoder)

/-- A path, written as a string. -/
def Path.decoder : Decoder Path := Path.mk <$> Decoder.string

namespace ExperimentTask

/-- The members of a task's object that are no parameters. -/
def schema : Schema ExperimentTask where
  blank := {
    params := (TaskParams.schema true).blank, cpu := none, priority := none, log := none
    releaseInterval := none }
  fields := [
    ⟨"cpu", .defaulted, (fun n t => { t with cpu := n }) <$> Decoder.nullable Decoder.uint64⟩,
    ⟨"priority", .defaulted, (fun n t => { t with priority := n }) <$> Decoder.nullable Decoder.int32⟩,
    ⟨"log", .defaulted, (fun p t => { t with log := p }) <$> Decoder.nullable Path.decoder⟩,
    ⟨"release_interval", .defaulted,
      (fun i t => { t with releaseInterval := i }) <$> Decoder.nullable Decoder.time⟩]

/-- A task's object lies in the experiment's object and in the array of tasks. -/
def levelsInside : Nat := Json.maxLevels - 3

/-- Reads a task; members that are not its own are kept for its parameters. -/
def decoder : Decoder ExperimentTask := do
  let (draft, others) ← Decoder.members (fun (draft, others) row => do
    let name ← Schema.key row
    match schema.find? name with
    | some field => return (← Schema.take draft field, others)
    | none =>
      let j ← Decoder.value (.checkedWithin levelsInside)
      return (draft, others ++ [(name, j)])) (schema.start, ([] : List (String × Json)))
  match (TaskParams.schema true).ofMembers others with
  | .ok params => return { draft.record with params }
  | .error fault => Decoder.fail fault

def toJson (t : ExperimentTask) : Json :=
  .object (t.params.members ++ [
    ("cpu", .ofOption (fun n => .ofNat n.toNat) t.cpu),
    ("priority", .ofOption (fun n => .ofInt n.toInt) t.priority),
    ("log", .ofOption (fun p => .string p.text) t.log),
    ("release_interval", .ofOption .ofTime t.releaseInterval)])

end ExperimentTask

namespace Experiment

def schema : Schema Experiment where
  blank := {
    duration := none, cpu := 0, logDir := defaultLogDir, realtime := false
    startDelay := defaultStartDelay, tasks := [] }
  fields := [
    ⟨"duration", .defaulted, (fun d e => { e with duration := d }) <$> Decoder.nullable Decoder.time⟩,
    ⟨"cpu", .defaulted, (fun n e => { e with cpu := n }) <$> Decoder.uint64⟩,
    ⟨"log_dir", .defaulted, (fun p e => { e with logDir := p }) <$> Path.decoder⟩,
    ⟨"realtime", .defaulted, (fun b e => { e with realtime := b }) <$> Decoder.bool⟩,
    ⟨"start_delay", .defaulted, (fun t e => { e with startDelay := t }) <$> Decoder.time⟩,
    ⟨"tasks", .required, (fun ts e => { e with tasks := ts }) <$> Decoder.array ExperimentTask.decoder⟩]

def toJson (e : Experiment) : Json :=
  .object [("duration", .ofOption .ofTime e.duration), ("cpu", .ofNat e.cpu.toNat),
    ("log_dir", .string e.logDir.text), ("realtime", .bool e.realtime),
    ("start_delay", .ofTime e.startDelay), ("tasks", .array (e.tasks.map ExperimentTask.toJson))]

/-- Reads an experiment from a file and checks it. -/
def load {m : Type → Type} [Monad m] [Storage m] (p : Path) : m (Result Experiment) := do
  let read ← schema.read.file p
  return do
    let e ← read
    e.validate
    return e

end Experiment

end TaskTiming
