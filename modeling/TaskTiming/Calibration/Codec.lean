import TaskTiming.Calibration
import TaskTiming.Json.Record

/-!
# Calibrations in JSON
-/

namespace TaskTiming.Calibration
set_option autoImplicit false
open Json (Schema Decoder)

def schema : Schema Calibration where
  blank := { cpu := 0, frequency := none, iterations := 0, target := .zero, tolerance := .zero }
  fields := [
    ⟨"cpu", .required, (fun n c => { c with cpu := n }) <$> Decoder.uint64⟩,
    ⟨"frequency_hz", .nullable,
      (fun n c => { c with frequency := n }) <$> Decoder.nullable Decoder.uint64⟩,
    ⟨"iterations", .required, (fun n c => { c with iterations := n }) <$> Decoder.uint64⟩,
    ⟨"target", .required, (fun t c => { c with target := t }) <$> Decoder.time⟩,
    ⟨"tolerance", .required, (fun t c => { c with tolerance := t }) <$> Decoder.time⟩]

def toJson (c : Calibration) : Json :=
  .object [("cpu", .ofNat c.cpu.toNat),
    ("frequency_hz", .ofOption (fun n => .ofNat n.toNat) c.frequency),
    ("iterations", .ofNat c.iterations.toNat), ("target", .ofTime c.target),
    ("tolerance", .ofTime c.tolerance)]

end TaskTiming.Calibration
