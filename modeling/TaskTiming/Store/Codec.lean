import TaskTiming.Store
import TaskTiming.Overheads.Codec
import TaskTiming.Calibration.Codec

/-!
# Calibration stores in JSON

A store is an object of CPUs by their indices. What is not known is not written.
-/

namespace TaskTiming
set_option autoImplicit false
open Json (Schema Decoder)

namespace CpuRecord

def schema : Schema CpuRecord where
  blank := blank
  fields := [
    ⟨"busyloop", .defaulted,
      (fun c r => { r with busyloop := c }) <$> Decoder.nullable Calibration.schema.read⟩,
    ⟨"periodic_overheads", .defaulted,
      (fun o r => { r with periodicOverheads := o }) <$> Decoder.nullable Overheads.schema.read⟩,
    ⟨"aperiodic_overheads", .defaulted,
      (fun o r => { r with aperiodicOverheads := o }) <$> Decoder.nullable Overheads.schema.read⟩]

def toJson (r : CpuRecord) : Json :=
  .object ((r.busyloop.map fun c => ("busyloop", c.toJson)).toList
    ++ (r.periodicOverheads.map fun o => ("periodic_overheads", o.toJson)).toList
    ++ (r.aperiodicOverheads.map fun o => ("aperiodic_overheads", o.toJson)).toList)

end CpuRecord

namespace Store

/-- The index that a key stands for: plain digits without a zero in front. -/
def index? (row : List Char) : Option UInt64 :=
  if row.isEmpty || !row.all Decimal.isDigit || (row.head? = some '0' && row.length ≠ 1) then none
  else Word.ofNat? (Decimal.value row)

/-- The CPUs of a store; of several records with one index the last counts. -/
def cpusDecoder : Decoder Store :=
  Decoder.members (fun s row => do
    match index? row with
    | none => Decoder.malformed
    | some cpu => return s.put cpu (← CpuRecord.schema.read)) empty

def schema : Schema Store where
  blank := empty
  fields := [⟨"cpus", .required, (fun s _ => s) <$> cpusDecoder⟩]

def toJson (s : Store) : Json :=
  .object [("cpus", .object (s.cpus.map fun (cpu, r) => (Decimal.text cpu.toNat, r.toJson)))]

end Store

end TaskTiming
